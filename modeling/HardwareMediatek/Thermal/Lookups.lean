import HardwareMediatek.Thermal.Registration

/-!
# Lookups during an update

An update looks up cooling devices, requests and budgets by the names of bound
devices, and power statuses by the names of rails. Registration only checks
that the devices exist: a device that is bound without a PID weight has no
request and no budget, and nothing checks that a rail has a status. The
lookups of a sensor with a PID algorithm succeed exactly when every bound
device has a weight, and every rail that the algorithm reads has a status.
-/

namespace HardwareMediatek.Thermal

open UnorderedMap

/-- The computation does not end with a lookup of a missing key. -/
def FindsKeys {α : Type} (r : Checked α) : Prop :=
  Meets r (fun _ ↦ True) fun fault ↦ fault ≠ .outOfRange

theorem FindsKeys.ne_outOfRange {α : Type} {r : Checked α} (h : FindsKeys r) :
    r ≠ .error .outOfRange :=
  fun herror ↦ h.of_error herror rfl

theorem FindsKeys.bind {α β : Type} {r : Checked α} {f : α → Checked β} (h : FindsKeys r)
    (hf : ∀ x, FindsKeys (f x)) : FindsKeys (r >>= f) :=
  Meets.bind h fun x _ ↦ hf x

/-- What is known about the result, together with the keys being found. -/
theorem FindsKeys.and {α : Type} {r : Checked α} {P : α → Prop} (h : FindsKeys r)
    (hP : Meets r P fun _ ↦ True) : Meets r P fun fault ↦ fault ≠ .outOfRange :=
  (Meets.and h hP).mono (fun _ hx ↦ hx.2) fun _ hfault ↦ hfault.1

theorem findsKeys_atKey {ν : Type} {m : UnorderedMap String ν} {k : String} (hk : k ∈ m) :
    FindsKeys (atKey m k) :=
  meets_atKey_of_mem hk fun _ _ ↦ trivial

theorem findsKeys_atIndex {α : Type} (xs : List α) (i : ℤ) : FindsKeys (atIndex xs i) :=
  meets_atIndex (fun _ _ ↦ trivial) fun _ ↦ by decide

theorem findsKeys_checkedInt (n : ℤ) : FindsKeys (checkedInt n) :=
  meets_checkedInt trivial (by decide)

theorem findsKeys_forEach {α σ : Type} {body : α → σ → Checked σ} {xs : List α} {s : σ}
    (hbody : ∀ x ∈ xs, ∀ s, FindsKeys (body x s)) : FindsKeys (forEach body xs s) :=
  meets_forEach (I := fun _ ↦ True) (fun x hx s _ ↦ hbody x hx s) trivial

theorem findsKeys_getCdevMaxRequest (votes : CdevAllRequestMap) (cdev : String) :
    FindsKeys (getCdevMaxRequest votes cdev) := by
  unfold getCdevMaxRequest
  split
  · trivial
  · split
    · exact (by decide : Fault.badIterator ≠ .outOfRange)
    · trivial

/-! ## What the lookups rely on -/

/-- A device that the passes of the allocation look at: it is switched off, or it has a weight at
the severity. -/
def isPending (severity : ThrottlingSeverity) (binding : BindedCdevInfo) : Bool :=
  !binding.enabled ||
    !((binding.cdevWeightForPid severity).isNaN || (binding.cdevWeightForPid severity).feq 0)

/-- The device has no rail, or its rail has a status without a power. -/
def LacksPower (powerStatusMap : PowerStatusMap) (binding : BindedCdevInfo) : Prop :=
  binding.powerRail = "" ∨ ∃ status, powerStatusMap.lookup binding.powerRail = some status ∧
    status.lastUpdatedAvgPower.isNaN = true

/-- A pass goes no further than a device without a rail or with a power link. -/
def endsPass (binding : BindedCdevInfo) : Bool :=
  binding.powerRail = "" || binding.throttlingWithPowerLink

/-- No pass over the devices reaches one whose rail has no status. -/
def RailsKnown (powerStatusMap : PowerStatusMap) (severity : ThrottlingSeverity)
    (pairs : List BindedCdevEntry) : Prop :=
  ∀ before pair after, pairs = before ++ pair :: after → isPending severity pair.2 = true →
    pair.2.powerRail ≠ "" → pair.2.powerRail ∉ powerStatusMap →
    ∃ earlier ∈ before, isPending severity earlier.2 = true ∧ endsPass earlier.2 = true

/-- The binding that is in force after the profile property has been read. -/
def ThrottlingInfo.bindingsUnder (info : ThrottlingInfo) (profileProperty : String) :
    BindedCdevInfoMap :=
  selectBindings info
    (if profileProperty = "" ∨ profileProperty ∈ info.profileMap then profileProperty else "")

/-- The keys that the PID algorithm of a sensor looks up are there. -/
structure LookupsCovered (info : ThrottlingInfo) (powerStatusMap : PowerStatusMap) : Prop where
  weights : ∀ cdev ∈ info.bindedCdevInfoMap, BoundWith hasPidWeight info.bindedCdevInfoMap cdev
  excluded : ∀ rail ∈ info.excludedPowerInfoMap, rail ∈ powerStatusMap
  rails : ∀ profileProperty severity, severity ≠ .none →
    RailsKnown powerStatusMap severity (info.bindingsUnder profileProperty).entries

/-- Some device has a budget, so the PID algorithm runs. -/
def ThrottlingInfo.SupportsPid (info : ThrottlingInfo) : Prop :=
  ∃ cdev, BoundWith hasPidWeight info.bindedCdevInfoMap cdev

/-! ## Covered lookups find their keys -/

section Covered

variable {input : UpdateInput} {info : ThrottlingInfo} {votes : CdevAllRequestMap}
  {status : ThermalThrottlingStatus}

theorem initialIBudget_findsKeys (hregistered : RegisteredStatus input.coolingDeviceInfoMap
      info.bindedCdevInfoMap status) (iBudget : ExactFloat) :
    FindsKeys (initialIBudget info input.coolingDeviceInfoMap votes iBudget) := by
  unfold initialIBudget
  split
  · split
    · trivial
    · apply FindsKeys.bind
      · apply findsKeys_forEach
        intro pair hpair defaultIBudget
        have hdevice := hregistered.devices pair.1 (mem_of_lookup (lookup_of_mem_entries hpair))
        apply (findsKeys_atKey hdevice).bind
        intro cdevInfo
        apply (findsKeys_getCdevMaxRequest votes pair.1).bind
        intro found
        exact (findsKeys_atIndex _ _).bind fun _ ↦ trivial
      · exact fun _ ↦ trivial
  · trivial

theorem computeCompensation_findsKeys (targetState : ThrottlingSeverity) (target : ExactFloat) :
    FindsKeys (computeCompensation input targetState target) := by
  unfold computeCompensation
  split
  · split
    · apply FindsKeys.bind
      · exact findsKeys_forEach fun indexed _ compensation ↦
          (findsKeys_atIndex _ _).bind fun _ ↦ trivial
      · exact fun _ ↦ trivial
    · trivial
  · trivial

theorem computeExcludedPower_findsKeys
    (hexcluded : ∀ rail ∈ info.excludedPowerInfoMap, rail ∈ input.powerStatusMap) :
    FindsKeys (computeExcludedPower info input.currSeverity input.powerStatusMap) := by
  apply findsKeys_forEach
  intro pair hpair excludedPower
  unfold addExcludedPower
  apply (findsKeys_atKey (hexcluded _ (mem_of_lookup (lookup_of_mem_entries hpair)))).bind
  intro status
  split <;> trivial

theorem updatePowerBudget_findsKeys
    (hregistered : RegisteredStatus input.coolingDeviceInfoMap info.bindedCdevInfoMap status)
    (hrequests : ∀ cdev ∈ selectBindings info status.profile, cdev ∈ status.pidCdevRequestMap)
    (hexcluded : ∀ rail ∈ info.excludedPowerInfoMap, rail ∈ input.powerStatusMap) :
    FindsKeys (updatePowerBudget input info votes status) := by
  unfold updatePowerBudget
  split
  · trivial
  · apply FindsKeys.bind
    · apply findsKeys_forEach
      intro pair hpair flags
      have hrequest := hrequests pair.1 (mem_of_lookup (lookup_of_mem_entries hpair))
      exact (findsKeys_atKey hrequest).bind fun _ ↦ (findsKeys_atKey hrequest).bind fun _ ↦ trivial
    · intro flags
      dsimp only
      split
      · trivial
      · unfold computePowerBudget sumTerms
        apply FindsKeys.bind
        · apply (initialIBudget_findsKeys hregistered _).bind
          intro iBudget
          apply (computeCompensation_findsKeys _ _).bind
          intro compensation
          exact (computeExcludedPower_findsKeys hexcluded).bind fun _ ↦ trivial
        · exact fun _ ↦ trivial

end Covered

/-! ## The passes of the allocation -/

section Passes

variable {input : UpdateInput} {votes : CdevAllRequestMap} {status : ThermalThrottlingStatus}
  {entries : List BindedCdevEntry}

/-- How reading the power of a device ends. Only valid data let the pass go on. -/
theorem getPowerData_ends (powerStatusMap : PowerStatusMap) (binding : BindedCdevInfo)
    (s : AllocationState) :
    Meets (getPowerData powerStatusMap binding s)
      (Flow.Ends
        (fun s' ↦ s'.allocatedCdev = s.allocatedCdev ∧ s'.powerDataInvalid = s.powerDataInvalid ∧
          (s.powerDataInvalid = false → endsPass binding = false))
        (fun s' ↦ s'.powerDataInvalid = true ∧ LacksPower powerStatusMap binding)
        fun _ ↦ endsPass binding = true)
      fun fault ↦ fault = .outOfRange ∧ s.powerDataInvalid = false ∧ binding.powerRail ≠ "" ∧
        binding.powerRail ∉ powerStatusMap := by
  unfold getPowerData
  cases hvalid : s.powerDataInvalid with
  | true => exact ⟨rfl, hvalid, fun h ↦ by cases h⟩
  | false =>
    simp only [Bool.false_eq_true, if_false]
    split
    · rename_i hnonempty
      apply (meets_atKey (P := fun status ↦ powerStatusMap.lookup binding.powerRail = some status)
        (fun _ hstatus ↦ hstatus) fun hmissing ↦ ⟨rfl, trivial, hnonempty, hmissing⟩).bind
      intro powerStatus hstatus
      split
      · rename_i hnan
        exact ⟨rfl, Or.inr ⟨powerStatus, hstatus, hnan⟩⟩
      · split
        · rename_i hlink
          exact (by simp [endsPass, hlink] : endsPass binding = true)
        · rename_i hlink
          exact ⟨rfl, rfl, fun _ ↦ by simp [endsPass, hnonempty, hlink]⟩
    · rename_i hempty
      exact ⟨rfl, Or.inl (not_not.mp hempty)⟩

theorem isPending_eq_false_iff (severity : ThrottlingSeverity) (binding : BindedCdevInfo) :
    isPending severity binding = false ↔
      (binding.enabled && ((binding.cdevWeightForPid severity).isNaN ||
        (binding.cdevWeightForPid severity).feq 0)) = true := by
  unfold isPending
  rw [← Bool.not_and, Bool.not_eq_false']

/-- Before the passes exactly the devices that are not pending are marked. -/
theorem mem_initialAllocation (bindings : BindedCdevInfoMap) (total : ExactFloat) (cdev : String) :
    cdev ∈ (initialAllocation input status bindings total).allocatedCdev ↔
      ∃ pair ∈ bindings.entries, pair.1 = cdev ∧ isPending input.currSeverity pair.2 = false := by
  simp only [isPending_eq_false_iff]
  unfold initialAllocation
  apply (foldl_addWeight_marks input.round input.currSeverity bindings.entries _ cdev).1.trans
  exact or_iff_right List.not_mem_nil

theorem initialAllocation_powerDataInvalid (bindings : BindedCdevInfoMap) (total : ExactFloat) :
    (initialAllocation input status bindings total).powerDataInvalid = false :=
  (foldl_addWeight_marks input.round input.currSeverity bindings.entries _ "").2

/-- What holds in the first pass while the devices of `rest` are still to come: the power data are
valid, every pending device before has been looked at and did not end the pass. -/
structure FirstPass (severity : ThrottlingSeverity)
    (entries rest : List BindedCdevEntry) (s : AllocationState) : Prop where
  valid : s.powerDataInvalid = false
  passed : ∃ before, entries = before ++ rest ∧
    (∀ pair ∈ before, isPending severity pair.2 = true → endsPass pair.2 = false) ∧
    ∀ cdev ∈ s.allocatedCdev, cdev ∈ before.map Sigma.fst ∨
      ∃ pair ∈ entries, pair.1 = cdev ∧ isPending severity pair.2 = false
  marked : ∀ pair ∈ entries, isPending severity pair.2 = false → pair.1 ∈ s.allocatedCdev

variable {rest : List BindedCdevEntry} {s : AllocationState}
  {pair : BindedCdevEntry} {severity : ThrottlingSeverity}

theorem FirstPass.start (bindings : BindedCdevInfoMap) (total : ExactFloat) :
    FirstPass input.currSeverity bindings.entries bindings.entries
      (initialAllocation input status bindings total) where
  valid := initialAllocation_powerDataInvalid bindings total
  passed := ⟨[], rfl, fun _ hpair ↦ absurd hpair List.not_mem_nil,
    fun cdev hcdev ↦ Or.inr ((mem_initialAllocation bindings total cdev).mp hcdev)⟩
  marked pair hpair hpending := (mem_initialAllocation bindings total pair.1).mpr
    ⟨pair, hpair, rfl, hpending⟩

/-- The next device is pending exactly when it is not marked. -/
theorem FirstPass.isPending_iff (hnodup : (entries.map Sigma.fst).Nodup)
    (h : FirstPass severity entries (pair :: rest) s) :
    isPending severity pair.2 = true ↔ pair.1 ∉ s.allocatedCdev := by
  obtain ⟨before, rfl, -, hallocated⟩ := h.passed
  have hpair : pair ∈ before ++ pair :: rest := by simp
  constructor
  · intro hpending hmem
    rcases hallocated pair.1 hmem with hbefore | ⟨pair', hpair', hkey, hnot⟩
    · rw [List.map_append, List.map_cons] at hnodup
      exact (List.nodup_append'.mp hnodup).2.2 hbefore List.mem_cons_self
    · obtain rfl := List.inj_on_of_nodup_map hnodup hpair' hpair hkey
      rw [hpending] at hnot
      cases hnot
  · intro hmem
    by_contra hpending
    exact hmem (h.marked pair hpair (by simpa using hpending))

/-- The rail of the next device is known, if it is looked up. -/
theorem FirstPass.rail_known (h : FirstPass severity entries (pair :: rest) s)
    (hrails : RailsKnown input.powerStatusMap severity entries)
    (hpending : isPending severity pair.2 = true) (hrail : pair.2.powerRail ≠ "") :
    pair.2.powerRail ∈ input.powerStatusMap := by
  by_contra hmissing
  obtain ⟨before, heq, hpassed, -⟩ := h.passed
  obtain ⟨earlier, hearlier, hpending', hends⟩ :=
    hrails before pair rest heq hpending hrail hmissing
  rw [hpassed earlier hearlier hpending'] at hends
  cases hends

/-- One round further: the device may be marked now. -/
theorem FirstPass.next (h : FirstPass severity entries (pair :: rest) s) {s' : AllocationState}
    (hvalid : s'.powerDataInvalid = false)
    (hends : isPending severity pair.2 = true → endsPass pair.2 = false)
    (hallocated : s'.allocatedCdev = s.allocatedCdev ∨
      s'.allocatedCdev = pair.1 :: s.allocatedCdev) : FirstPass severity entries rest s' := by
  obtain ⟨before, rfl, hpassed, hmarked⟩ := h.passed
  refine ⟨hvalid, ⟨before ++ [pair], by simp, fun pair' hpair' ↦ ?_, fun cdev hcdev ↦ ?_⟩,
    fun pair' hpair' hpending ↦ ?_⟩
  · rcases List.mem_append.mp hpair' with hbefore | hlast
    · exact hpassed pair' hbefore
    · rw [List.mem_singleton] at hlast
      rwa [hlast]
  · have hold : cdev = pair.1 ∨ cdev ∈ s.allocatedCdev := by
      rcases hallocated with heq | heq
      · exact Or.inr (heq ▸ hcdev)
      · exact List.mem_cons.mp (heq ▸ hcdev)
    rcases hold with rfl | hold
    · exact Or.inl (by simp)
    · rcases hmarked cdev hold with hbefore | hother
      · exact Or.inl (by simp [hbefore])
      · exact Or.inr hother
  · have hold := h.marked pair' hpair' hpending
    rcases hallocated with heq | heq
    · rwa [heq]
    · rw [heq]
      exact List.mem_cons_of_mem _ hold

/-- Every rail that the second pass may read is known, after a first pass to the end. -/
theorem FirstPass.all_known (h : FirstPass severity entries [] s)
    (hrails : RailsKnown input.powerStatusMap severity entries) :
    ∀ pair ∈ entries, isPending severity pair.2 = true →
      pair.2.powerRail ∈ input.powerStatusMap := by
  intro pair hpair hpending
  obtain ⟨before, heq, hpassed, -⟩ := h.passed
  rw [List.append_nil] at heq
  subst heq
  by_contra hmissing
  have hends := hpassed pair hpair hpending
  have hrail : pair.2.powerRail ≠ "" := by
    intro hempty
    simp [endsPass, hempty] at hends
  obtain ⟨earlier, later, heq⟩ := List.append_of_mem hpair
  obtain ⟨pair', hpair', hpending', hends'⟩ :=
    hrails earlier pair later heq hpending hrail hmissing
  have hmem : pair' ∈ entries := by
    rw [heq]
    exact List.mem_append_left _ hpair'
  rw [hpassed pair' hmem hpending'] at hends'
  cases hends'

/-- How one round of the first pass ends. -/
theorem checkLowPowerDevice_ends (hnodup : (entries.map Sigma.fst).Nodup)
    (h : FirstPass input.currSeverity entries (pair :: rest) s) :
    Meets (checkLowPowerDevice input status pair s)
      (Flow.Ends (FirstPass input.currSeverity entries rest)
        (fun s' ↦ s'.powerDataInvalid = true ∧ isPending input.currSeverity pair.2 = true ∧
          LacksPower input.powerStatusMap pair.2)
        fun _ ↦ isPending input.currSeverity pair.2 = true ∧ endsPass pair.2 = true)
      fun fault ↦ fault = .outOfRange ∧ (pair.1 ∉ status.pidCdevRequestMap ∨
        isPending input.currSeverity pair.2 = true ∧ pair.2.powerRail ≠ "" ∧
          pair.2.powerRail ∉ input.powerStatusMap) := by
  unfold checkLowPowerDevice
  dsimp only
  split
  · rename_i hmarked
    refine h.next h.valid (fun hpending ↦ ?_) (Or.inl rfl)
    exact absurd hmarked ((h.isPending_iff hnodup).mp hpending)
  · rename_i hunmarked
    have hpending := (h.isPending_iff hnodup).mpr hunmarked
    have hends := (getPowerData_ends input.powerStatusMap pair.2 s).mono (fun _ ↦ id)
      fun fault hfault ↦ (⟨hfault.1, Or.inr ⟨hpending, hfault.2.2⟩⟩ : fault = .outOfRange ∧
        (pair.1 ∉ status.pidCdevRequestMap ∨ isPending input.currSeverity pair.2 = true ∧
          pair.2.powerRail ≠ "" ∧ pair.2.powerRail ∉ input.powerStatusMap))
    apply hends.bind
    intro flow hflow
    cases flow with
    | next s' =>
      obtain ⟨hallocated, hvalid, hpass⟩ := hflow
      have hvalid' := hvalid.trans h.valid
      dsimp only
      split
      · apply (meets_atKey (P := fun _ ↦ True) (fun _ _ ↦ trivial)
          fun hmissing ↦ ⟨rfl, Or.inl hmissing⟩).bind
        intro request _
        split
        · exact h.next hvalid' (fun _ ↦ hpass h.valid) (Or.inr (congrArg _ hallocated))
        · exact h.next hvalid' (fun _ ↦ hpass h.valid) (Or.inl hallocated)
      · exact h.next hvalid' (fun _ ↦ hpass h.valid) (Or.inl hallocated)
    | stop s' => exact ⟨hflow.1, hpending, hflow.2⟩
    | giveUp s' => exact ⟨hpending, hflow⟩

/-- The first pass finds its keys, and after a pass to the end so will the second one. -/
theorem firstPass_findsKeys (hnodup : (entries.map Sigma.fst).Nodup)
    (hrequests : ∀ pair ∈ entries, pair.1 ∈ status.pidCdevRequestMap)
    (hrails : RailsKnown input.powerStatusMap input.currSeverity entries)
    (h : FirstPass input.currSeverity entries entries s) :
    Meets (iterate (checkLowPowerDevice input status) entries s)
      (Flow.Ends (FirstPass input.currSeverity entries []) (fun s' ↦ s'.powerDataInvalid = true)
        fun _ ↦ True) fun fault ↦ fault ≠ .outOfRange := by
  apply meets_iterate_rest _ h
  intro pair rest s hs
  apply (checkLowPowerDevice_ends hnodup hs).mono
  · intro flow hflow
    match flow, hflow with
    | .next s', hnext => exact hnext
    | .stop s', hstop => exact hstop.1
    | .giveUp s', _ => trivial
  · rintro fault ⟨-, hmissing | ⟨hpending, hrail, hmissing⟩⟩
    · obtain ⟨before, rfl, -⟩ := hs.passed
      exact absurd (hrequests pair (by simp)) hmissing
    · exact absurd (hs.rail_known hrails hpending hrail) hmissing

/-! ### The second pass -/

/-- No key that the second pass looks up is missing. -/
structure SecondPass (input : UpdateInput) (status : ThermalThrottlingStatus)
    (entries : List BindedCdevEntry) (s : AllocationState) : Prop where
  budgets : s.pidPowerBudgetMap.keys = status.pidPowerBudgetMap.keys
  rails : s.powerDataInvalid = false → ∀ pair ∈ entries, pair.1 ∉ s.allocatedCdev →
    pair.2.powerRail ∈ input.powerStatusMap

theorem findsKeys_widenStep (state2power : List ExactFloat) (currCdevVote : ℤ) (probe : ℤ → ℤ)
    (inside : ℤ → Bool) (fuel : ℕ) (step : ℤ) :
    FindsKeys (widenStep state2power currCdevVote probe inside fuel step) := by
  induction fuel generalizing step with
  | zero => exact (findsKeys_checkedInt _).bind fun _ ↦ trivial
  | succ fuel ih =>
    apply (findsKeys_checkedInt _).bind
    intro state
    split
    · apply (findsKeys_atIndex _ _).bind
      intro power
      apply (findsKeys_atIndex _ _).bind
      intro currPower
      split
      · exact ih _
      · trivial
    · trivial

theorem findsKeys_limitSteps (cdevInfo : CdevInfo) (binding : BindedCdevInfo) (invalid : Bool)
    (adjustment : ExactFloat) (currCdevVote maxCdevVote : ℤ) (budget : ExactFloat) :
    FindsKeys (limitSteps input cdevInfo binding invalid adjustment currCdevVote maxCdevVote
      budget) := by
  unfold limitSteps
  split
  · trivial
  · apply FindsKeys.bind
    · unfold limitRelease targetReleaseStep
      split
      · split
        · exact findsKeys_atIndex _ _
        · apply (findsKeys_widenStep _ _ _ _ _ _).bind
          exact fun step ↦ (findsKeys_atIndex _ _).bind fun _ ↦ trivial
      · trivial
    · intro budget'
      unfold limitThrottle targetThrottleStep
      split
      · apply (findsKeys_widenStep _ _ _ _ _ _).bind
        exact fun step ↦ (findsKeys_atIndex _ _).bind fun _ ↦ trivial
      · trivial

theorem findsKeys_boundBudget (cdevInfo : CdevInfo) (budget : ExactFloat) :
    FindsKeys (boundBudget cdevInfo budget) := by
  apply (findsKeys_atIndex _ _).bind
  intro power
  split
  · trivial
  · split <;> trivial

theorem findsKeys_distributedBudget {round : ExactFloat → ExactFloat} {cdevName : String}
    {cdevInfo : CdevInfo} {binding : BindedCdevInfo} {weight adjustment : ExactFloat}
    (hbudget : cdevName ∈ s.pidPowerBudgetMap) :
    FindsKeys (distributedBudget round cdevName cdevInfo binding s weight adjustment) := by
  unfold distributedBudget
  split
  · exact findsKeys_atIndex _ _
  · split
    · apply (findsKeys_atKey hbudget).bind
      intro _
      trivial
    · trivial

theorem deviceBudget_findsKeys (hbudget : pair.1 ∈ status.pidPowerBudgetMap)
    (hrequest : pair.1 ∈ status.pidCdevRequestMap) (h : SecondPass input status entries s)
    (cdevInfo : CdevInfo) (adjustment : ExactFloat) :
    Meets (deviceBudget input votes status pair cdevInfo adjustment s)
      (Flow.Ends (SecondPass input status entries) (fun _ ↦ True) fun _ ↦ True)
      fun fault ↦ fault ≠ .outOfRange := by
  have hbudget' := (mem_iff_of_keys_eq h.budgets pair.1).mpr hbudget
  unfold deviceBudget
  apply Meets.bind (findsKeys_distributedBudget hbudget')
  intro budget _
  apply Meets.bind (findsKeys_boundBudget cdevInfo budget)
  intro bounded _
  apply Meets.bind (findsKeys_getCdevMaxRequest votes pair.1)
  intro found _
  match found with
  | none => trivial
  | some maxCdevVote =>
    apply Meets.bind (findsKeys_atKey hrequest)
    intro currCdevVote _
    apply Meets.bind (findsKeys_limitSteps cdevInfo pair.2 _ _ _ _ _)
    intro limited _
    apply Meets.bind (findsKeys_atKey hbudget')
    intro old _
    exact ⟨(keys_assign _ _ _).trans h.budgets, h.rails⟩

theorem allocateDevice_findsKeys (hpair : pair ∈ entries)
    (hdevice : pair.1 ∈ input.coolingDeviceInfoMap) (hbudget : pair.1 ∈ status.pidPowerBudgetMap)
    (hrequest : pair.1 ∈ status.pidCdevRequestMap) (h : SecondPass input status entries s) :
    Meets (allocateDevice input votes status pair s)
      (Flow.Ends (SecondPass input status entries) (fun _ ↦ True) fun _ ↦ True)
      fun fault ↦ fault ≠ .outOfRange := by
  unfold allocateDevice
  split
  · exact h
  · rename_i hunmarked
    have hends := (getPowerData_ends input.powerStatusMap pair.2 s).and
      (getPowerData_budgets input.powerStatusMap pair.2 s)
    apply (hends.mono (fun _ ↦ id) fun fault hfault ↦ ?_).bind
    · intro flow hflow
      cases flow with
      | next s' =>
        obtain ⟨⟨hallocated, hvalid, -⟩, hbudgets⟩ := hflow
        have hnext : SecondPass input status entries s' :=
          ⟨(congrArg AList.keys hbudgets).trans h.budgets,
            fun hs' ↦ hallocated ▸ h.rails (hvalid ▸ hs')⟩
        apply Meets.bind (findsKeys_atKey hdevice)
        intro cdevInfo _
        apply Meets.bind (P := fun _ ↦ True)
        · unfold atMaxState
          split
          · exact (findsKeys_atKey hrequest).bind fun _ ↦ trivial
          · trivial
        · intro atMax _
          split
          · exact hnext
          · exact deviceBudget_findsKeys hbudget hrequest hnext cdevInfo _
      | stop s' => trivial
      | giveUp s' => trivial
    · obtain ⟨⟨-, hvalid, -, hmissing⟩, -⟩ := hfault
      exact absurd (h.rails hvalid pair hpair hunmarked) hmissing

theorem settlePass_allocatedCdev (round : ExactFloat → ExactFloat) (s : AllocationState) :
    (settlePass round s).allocatedCdev = s.allocatedCdev := by
  unfold settlePass
  dsimp only
  split <;> rfl

theorem settlePass_powerDataInvalid (round : ExactFloat → ExactFloat) (s : AllocationState) :
    (settlePass round s).powerDataInvalid = s.powerDataInvalid := by
  unfold settlePass
  dsimp only
  split <;> rfl

theorem allocatePasses_findsKeys {bindings : BindedCdevInfoMap} (total : ExactFloat)
    (hdevices : ∀ cdev ∈ bindings, cdev ∈ input.coolingDeviceInfoMap)
    (hbudgets : ∀ cdev ∈ bindings, cdev ∈ status.pidPowerBudgetMap)
    (hrequests : ∀ cdev ∈ bindings, cdev ∈ status.pidCdevRequestMap)
    (hrails : RailsKnown input.powerStatusMap input.currSeverity bindings.entries) :
    FindsKeys (allocatePasses input votes status bindings total) := by
  have hmem : ∀ pair ∈ bindings.entries, pair.1 ∈ bindings :=
    fun pair hpair ↦ mem_of_lookup (lookup_of_mem_entries hpair)
  have hfirst := (firstPass_findsKeys bindings.nodupKeys
    (fun pair hpair ↦ hrequests _ (hmem pair hpair)) hrails (FirstPass.start bindings total)).and
    (firstPass_budgets bindings total)
  have hsecond : ∀ s, SecondPass input status bindings.entries s →
      FindsKeys (allocatePass input votes status bindings s) := by
    intro s hs
    unfold allocatePass
    apply Meets.bind (P := fun _ ↦ True)
    · apply (meets_iterate_rest (J := fun rest s ↦ rest ⊆ bindings.entries ∧
        SecondPass input status bindings.entries s) (S := fun _ ↦ True) (G := fun _ ↦ True) ?_
        ⟨List.Subset.refl _, hs⟩).imp fun _ _ ↦ trivial
      rintro pair rest s ⟨hsubset, hs⟩
      have hpair := hsubset List.mem_cons_self
      have hbound := hmem pair hpair
      apply (allocateDevice_findsKeys hpair (hdevices _ hbound) (hbudgets _ hbound)
        (hrequests _ hbound) hs).imp
      intro flow hflow
      match flow, hflow with
      | .next s', hnext => exact ⟨fun _ h ↦ hsubset (List.mem_cons_of_mem _ h), hnext⟩
      | .stop s', _ => trivial
      | .giveUp s', _ => trivial
    · intro flow _
      cases flow <;> trivial
  unfold allocatePasses
  apply (hfirst.mono (fun _ ↦ id) fun _ hfault ↦ hfault.1).bind
  rintro flow ⟨hflow, hkept⟩
  match flow, hflow, hkept with
  | .giveUp s, _, _ => trivial
  | .next s, hend, hkept =>
    apply hsecond
    constructor
    · rw [settlePass_budgets]
      exact congrArg AList.keys hkept
    · intro _ pair hpair hunmarked
      apply hend.all_known hrails pair hpair
      by_contra hpending
      rw [settlePass_allocatedCdev] at hunmarked
      exact hunmarked (hend.marked pair hpair (by simpa using hpending))
  | .stop s, hinvalid, hkept =>
    apply hsecond
    constructor
    · rw [settlePass_budgets]
      exact congrArg AList.keys hkept
    · intro hvalid
      rw [settlePass_powerDataInvalid, show s.powerDataInvalid = true from hinvalid] at hvalid
      cases hvalid

end Passes

/-! ## An update finds its keys -/

section Update

variable {input : UpdateInput} {info : ThrottlingInfo} {votes : CdevAllRequestMap}
  {status : ThermalThrottlingStatus}

theorem selectBindings_updateProfile (input : UpdateInput) (info : ThrottlingInfo)
    (status : ThermalThrottlingStatus) :
    selectBindings info (updateProfile input info status).profile =
      info.bindingsUnder input.profileProperty := by
  unfold updateProfile ThrottlingInfo.bindingsUnder parseProfileProperty
  split
  · split <;> rfl
  · rename_i hempty
    have hnone : ∀ profile, info.profileMap.lookup profile = none := by
      intro profile
      apply AList.lookup_eq_none.mpr
      intro hmem
      obtain ⟨bindings, hlookup⟩ := mem_iff_lookup.mp hmem
      rw [not_not] at hempty
      have hentry := mem_entries_iff.mpr hlookup
      rw [hempty] at hentry
      cases hentry
    unfold selectBindings
    rw [hnone, hnone]

/-- A sensor that has a budget supports the PID algorithm. -/
theorem supportsPid_iff (hregistered : RegisteredStatus input.coolingDeviceInfoMap
      info.bindedCdevInfoMap status) :
    status.pidPowerBudgetMap.entries ≠ [] ↔ info.SupportsPid := by
  constructor
  · intro hne
    obtain ⟨pair, hpair⟩ := List.exists_mem_of_ne_nil _ hne
    exact ⟨pair.1, (hregistered.budgets _).mp (mem_of_lookup (lookup_of_mem_entries hpair))⟩
  · rintro ⟨cdev, hweighted⟩ hempty
    obtain ⟨budget, hlookup⟩ := mem_iff_lookup.mp ((hregistered.budgets cdev).mpr hweighted)
    have hentry := mem_entries_iff.mpr hlookup
    rw [hempty] at hentry
    cases hentry

theorem updateCdevRequestByPower_findsKeys {bindings : BindedCdevInfoMap}
    (hregistered : RegisteredStatus input.coolingDeviceInfoMap bindings status) :
    FindsKeys (updateCdevRequestByPower input.coolingDeviceInfoMap status) := by
  unfold updateCdevRequestByPower
  apply Meets.bind (P := fun _ ↦ True)
  · apply (meets_forEach (I := fun requests : UnorderedMap String ℤ ↦
      requests.keys = status.pidCdevRequestMap.keys) ?_ rfl).imp fun _ _ ↦ trivial
    intro pair hpair requests hkeys
    have hweighted := (hregistered.budgets pair.1).mp (mem_of_lookup (lookup_of_mem_entries hpair))
    obtain ⟨binding, hbinding, -⟩ := id hweighted
    unfold requestByPower
    apply Meets.bind (findsKeys_atKey (hregistered.devices _ (mem_of_lookup hbinding)))
    intro cdevInfo _
    apply ((powerToState_nonneg _ _).mono (fun _ ↦ id) fun _ hfault ↦ ?_).bind
    · intro state _
      have hrequest := (mem_iff_of_keys_eq hkeys pair.1).mpr
        ((hregistered.requests pair.1).mpr hweighted)
      apply Meets.bind (findsKeys_atKey hrequest)
      exact fun _ _ ↦ (keys_assign _ _ _).trans hkeys
    · rw [hfault.1]
      decide
  · exact fun _ _ ↦ trivial

theorem updateRelease_findsKeys {bindings : BindedCdevInfoMap}
    (hbindings : info.bindedCdevInfoMap = bindings)
    (hregistered : RegisteredStatus input.coolingDeviceInfoMap bindings status) :
    FindsKeys (updateRelease input info status) := by
  unfold updateRelease
  split
  · unfold throttlingReleaseUpdate
    apply Meets.bind (P := fun _ ↦ True)
    · apply (meets_iterate (I := fun _ ↦ True) ?_ trivial).imp fun _ _ ↦ trivial
      intro pair hpair releaseMap _
      rw [hbindings] at hpair
      have hdevice := hregistered.devices pair.1 (mem_of_lookup (lookup_of_mem_entries hpair))
      unfold releaseUpdate
      split
      · apply (findsKeys_atKey hdevice).bind
        intro cdevInfo
        dsimp only
        split <;> trivial
      · trivial
    · exact fun _ _ ↦ trivial
  · trivial

/-- The PID part of an update, when its lookups are covered. -/
theorem updatePid_findsKeys (hregistered : RegisteredStatus input.coolingDeviceInfoMap
      info.bindedCdevInfoMap status)
    (hprofiles : info.ProfilesMatchDefault) (hseverity : input.currSeverity ≠ .none)
    (hbindings : selectBindings info status.profile = info.bindingsUnder input.profileProperty)
    (hcovered : info.SupportsPid → LookupsCovered info input.powerStatusMap) :
    FindsKeys (updatePid input info votes status) := by
  unfold updatePid
  split
  · rename_i hbudgets
    have hcovered := hcovered ((supportsPid_iff hregistered).mp hbudgets)
    have hbound : ∀ cdev ∈ selectBindings info status.profile, cdev ∈ info.bindedCdevInfoMap :=
      fun cdev ↦ (hprofiles.mem_selectBindings status.profile).mp
    have hrequests : ∀ cdev ∈ selectBindings info status.profile,
        cdev ∈ status.pidCdevRequestMap :=
      fun cdev hcdev ↦ (hregistered.requests cdev).mpr (hcovered.weights cdev (hbound cdev hcdev))
    have hallocated : FindsKeys (allocatePowerToCdev input info votes status) := by
      unfold allocatePowerToCdev
      apply Meets.bind (updatePowerBudget_findsKeys hregistered hrequests hcovered.excluded)
      intro budget _
      apply Meets.bind (allocatePasses_findsKeys _
        (fun cdev hcdev ↦ hregistered.devices cdev (hbound cdev hcdev))
        (fun cdev hcdev ↦ (hregistered.budgets cdev).mpr (hcovered.weights cdev (hbound cdev hcdev)))
        hrequests ?_)
      · exact fun _ _ ↦ trivial
      · rw [hbindings]
        exact hcovered.rails _ _ hseverity
    apply Meets.bind (hallocated.and allocatePowerToCdev_frame)
    rintro ⟨status', allocated⟩ hframe
    have hregistered' := hframe.shape.registeredStatus hregistered
    cases allocated with
    | true => exact updateCdevRequestByPower_findsKeys hregistered'
    | false =>
      have hshape : SameShape status' { status' with
          pidCdevRequestMap := status'.pidCdevRequestMap.mapValues fun _ _ ↦ 0 } :=
        ⟨rfl, keys_mapValues _ _, rfl, rfl, rfl⟩
      exact updateCdevRequestByPower_findsKeys (hshape.registeredStatus hregistered')
  · trivial

theorem updateStatus_findsKeys (hregistered : RegisteredStatus input.coolingDeviceInfoMap
      info.bindedCdevInfoMap status)
    (hprofiles : info.ProfilesMatchDefault) (hseverity : input.currSeverity ≠ .none)
    (hcovered : info.SupportsPid → LookupsCovered info input.powerStatusMap) :
    FindsKeys (updateStatus input info votes status) := by
  have hread : RegisteredStatus input.coolingDeviceInfoMap info.bindedCdevInfoMap
      (updateProfile input info status) :=
    updateProfile_frame.shape.registeredStatus hregistered
  unfold updateStatus
  apply Meets.bind ((updatePid_findsKeys hread hprofiles hseverity
    (selectBindings_updateProfile input info status) hcovered).and updatePid_frame)
  intro status' hframe
  apply updateRelease_findsKeys rfl
  exact updateHardlimit_frame.shape.registeredStatus (hframe.shape.registeredStatus hread)

end Update

end HardwareMediatek.Thermal
