import HardwareMediatek.Thermal.ThrottlingRun

/-!
# Requests after an allocation that fails

When the budget cannot be allocated, the requests of a sensor are cleared, and then computed from the
budgets again. A request stays at zero only where the budget left from earlier cycles covers the power
of state 0.
-/

namespace HardwareMediatek.Thermal

/-! ## Requests from budgets -/

/-- A budget that leads to state 0: the device has no other state, or the budget covers its power. -/
def CoversStateZero (budget : ExactFloat) (state2power : List ExactFloat) : Prop :=
  state2power.length = 1 ∨ ∃ power, state2power.head? = some power ∧ power ≤ budget

def BudgetsCover (coolingDeviceInfoMap : CdevInfoMap) (budgets : UnorderedMap String ℤ) : Prop :=
  ∀ cdev budget cdevInfo, budgets.lookup cdev = some budget →
    coolingDeviceInfoMap.lookup cdev = some cdevInfo →
      CoversStateZero (ExactFloat.ofInt budget) cdevInfo.state2power

theorem powerToState_eq_zero_iff {budget : ExactFloat} {state2power : List ExactFloat} {state : ℤ}
    (hstate : powerToState budget state2power = .ok state) :
    state = 0 ↔ CoversStateZero budget state2power := by
  cases state2power with
  | nil => cases hstate
  | cons power rest =>
    cases rest with
    | nil =>
      have hzero : 0 = state := Except.ok.inj hstate
      exact iff_of_true hzero.symm (Or.inl rfl)
    | cons power' rest' =>
      unfold powerToState at hstate
      by_cases hcovers : power ≤ budget
      · rw [if_pos hcovers] at hstate
        have hzero : 0 = state := Except.ok.inj hstate
        exact iff_of_true hzero.symm (Or.inr ⟨power, rfl, hcovers⟩)
      · rw [if_neg hcovers] at hstate
        obtain ⟨lower, hlower⟩ := bind_eq_ok.mp hstate
        have hnext : lower + 1 = state := Except.ok.inj hlower.2
        have hnonneg := ((powerToState_nonneg budget (power' :: rest')).of_ok hlower.1).1
        apply iff_of_false
        · omega
        · intro hboth
          rcases hboth with hlength | hhead
          · rw [List.length_cons, List.length_cons] at hlength
            omega
          · obtain ⟨first, hfirst⟩ := hhead
            rw [List.head?_cons, Option.some.injEq] at hfirst
            rw [← hfirst.1] at hfirst
            exact hcovers hfirst.2

/-- The requests in the middle of `updateCdevRequestByPower`: the budgets of `rest` are still to
come. -/
structure RequestsSoFar (coolingDeviceInfoMap : CdevInfoMap) (budgets start : UnorderedMap String ℤ)
    (rest : List (Sigma fun _ : String ↦ ℤ)) (requests : UnorderedMap String ℤ) : Prop where
  pending : ∀ entry ∈ rest, budgets.lookup entry.1 = some entry.2
  nodup : (rest.map Sigma.fst).Nodup
  done : ∀ cdev budget, budgets.lookup cdev = some budget → cdev ∉ rest.map Sigma.fst →
    ∃ cdevInfo state, coolingDeviceInfoMap.lookup cdev = some cdevInfo ∧
      powerToState (ExactFloat.ofInt budget) cdevInfo.state2power = .ok state ∧
      requests.lookup cdev = some state
  others : ∀ cdev, cdev ∉ budgets → requests.lookup cdev = start.lookup cdev

section Requests

variable {coolingDeviceInfoMap : CdevInfoMap} {budgets start requests : UnorderedMap String ℤ}
  {status : ThermalThrottlingStatus}

theorem RequestsSoFar.round {entry : Sigma fun _ : String ↦ ℤ}
    {rest : List (Sigma fun _ : String ↦ ℤ)}
    (h : RequestsSoFar coolingDeviceInfoMap budgets start (entry :: rest) requests) :
    Meets (requestByPower coolingDeviceInfoMap entry requests)
      (RequestsSoFar coolingDeviceInfoMap budgets start rest) fun _ ↦ True := by
  have hentry := h.pending entry List.mem_cons_self
  unfold requestByPower
  apply (meets_self _).bind
  intro cdevInfo hcdevInfo
  apply (meets_self _).bind
  intro state hstate
  apply (meets_self _).bind
  intro old hold
  rw [meets_pure]
  apply RequestsSoFar.mk
  · intro entry' hentry'
    exact h.pending entry' (List.mem_cons_of_mem _ hentry')
  · exact (List.nodup_cons.mp h.nodup).2
  · intro cdev budget hbudget hdone
    by_cases hsame : cdev = entry.1
    · rw [hsame] at hbudget ⊢
      have hvalue : entry.2 = budget := Option.some.inj (hentry.symm.trans hbudget)
      rw [← hvalue]
      exact ⟨cdevInfo, state, atKey_eq_ok.mp hcdevInfo, hstate,
        UnorderedMap.lookup_assign_of_mem state (UnorderedMap.mem_of_lookup (atKey_eq_ok.mp hold))⟩
    · have hbefore : cdev ∉ (entry :: rest).map Sigma.fst := by
        rw [List.map_cons, List.mem_cons, not_or]
        exact ⟨hsame, hdone⟩
      rw [UnorderedMap.lookup_assign_ne _ state hsame]
      exact h.done cdev budget hbudget hbefore
  · intro cdev hnot
    have hne : cdev ≠ entry.1 := by
      intro hsame
      rw [hsame] at hnot
      exact hnot (UnorderedMap.mem_of_lookup hentry)
    rw [UnorderedMap.lookup_assign_ne _ state hne]
    exact h.others cdev hnot

/-- Every budget becomes a request, and the other requests stay. -/
theorem updateCdevRequestByPower_requests (coolingDeviceInfoMap : CdevInfoMap)
    (status : ThermalThrottlingStatus) :
    Meets (updateCdevRequestByPower coolingDeviceInfoMap status)
      (fun after ↦ RequestsSoFar coolingDeviceInfoMap status.pidPowerBudgetMap
        status.pidCdevRequestMap [] after.pidCdevRequestMap) fun _ ↦ True := by
  have hstart : RequestsSoFar coolingDeviceInfoMap status.pidPowerBudgetMap status.pidCdevRequestMap
      status.pidPowerBudgetMap.entries status.pidCdevRequestMap :=
    ⟨fun _ hentry ↦ UnorderedMap.lookup_of_mem_entries hentry, status.pidPowerBudgetMap.nodupKeys,
      fun cdev budget hbudget hnot ↦
        absurd (List.mem_map_of_mem (UnorderedMap.mem_entries_iff.mpr hbudget)) hnot,
      fun _ _ ↦ rfl⟩
  unfold updateCdevRequestByPower
  apply (meets_forEach_rest (fun _ _ _ h ↦ h.round) hstart).bind
  intro requests hrequests
  exact hrequests

/-- Requests that start from zero end there if and only if the budgets cover the states 0. -/
theorem RequestsSoFar.released_iff
    (h : RequestsSoFar coolingDeviceInfoMap budgets start [] requests)
    (hstart : ∀ cdev request, start.lookup cdev = some request → request = 0) :
    (∀ cdev request, requests.lookup cdev = some request → request = 0) ↔
      BudgetsCover coolingDeviceInfoMap budgets := by
  apply Iff.intro
  · intro hzero cdev budget cdevInfo hbudget hcdevInfo
    obtain ⟨info, state, hstate⟩ := h.done cdev budget hbudget List.not_mem_nil
    have hsame : info = cdevInfo := Option.some.inj (hstate.1.symm.trans hcdevInfo)
    rw [← hsame, ← powerToState_eq_zero_iff hstate.2.1]
    exact hzero cdev state hstate.2.2
  · intro hcovers cdev request hrequest
    by_cases hmem : cdev ∈ budgets
    · have hbudget := UnorderedMap.mem_iff_lookup.mp hmem
      obtain ⟨budget, hbudget⟩ := hbudget
      obtain ⟨info, state, hstate⟩ := h.done cdev budget hbudget List.not_mem_nil
      have hsame : state = request := Option.some.inj (hstate.2.2.symm.trans hrequest)
      rw [← hsame, powerToState_eq_zero_iff hstate.2.1]
      exact hcovers cdev budget info hbudget hstate.1
    · rw [h.others cdev hmem] at hrequest
      exact hstart cdev request hrequest

end Requests

/-! ## A device with a power link -/

/-- A device that the passes skip, since it has no weight. -/
def weightless (currSeverity : ThrottlingSeverity) (binding : BindedCdevInfo) : Bool :=
  binding.enabled && ((binding.cdevWeightForPid currSeverity).isNaN ||
    (binding.cdevWeightForPid currSeverity).feq 0)

/-- The first device with a weight whose power is not simply read is one that throttles with its
power link. -/
def powerLinkFirst (powerStatusMap : PowerStatusMap) (currSeverity : ThrottlingSeverity) :
    List BindedCdevEntry → Bool
  | [] => false
  | pair :: rest =>
    if weightless currSeverity pair.2 then powerLinkFirst powerStatusMap currSeverity rest
    else if pair.2.powerRail = "" then false
    else
      match powerStatusMap.lookup pair.2.powerRail with
      | none => false
      | some status =>
        if status.lastUpdatedAvgPower.isNaN then false
        else pair.2.throttlingWithPowerLink || powerLinkFirst powerStatusMap currSeverity rest

section PowerLink

variable {input : UpdateInput} {status : ThermalThrottlingStatus}
  {pairs : List BindedCdevEntry} {s : AllocationState}

theorem foldl_addWeight_allocated (round : ExactFloat → ExactFloat)
    (currSeverity : ThrottlingSeverity)
    (pairs : List BindedCdevEntry) (s : AllocationState) (cdev : String) :
    (cdev ∈ (pairs.foldl (addWeight round currSeverity) s).allocatedCdev ↔
        cdev ∈ s.allocatedCdev ∨ ∃ pair ∈ pairs, pair.1 = cdev ∧
          weightless currSeverity pair.2 = true) ∧
      (pairs.foldl (addWeight round currSeverity) s).powerDataInvalid = s.powerDataInvalid :=
  foldl_addWeight_marks round currSeverity pairs s cdev

/-- The first pass in front of `rest`: nothing but the power data decides how it goes on. -/
structure BeforePowerLink (input : UpdateInput) (rest : List BindedCdevEntry)
    (s : AllocationState) : Prop where
  allocated : ∀ pair ∈ rest,
    (pair.1 ∈ s.allocatedCdev ↔ weightless input.currSeverity pair.2 = true)
  nodup : (rest.map Sigma.fst).Nodup
  valid : s.powerDataInvalid = false
  found : powerLinkFirst input.powerStatusMap input.currSeverity rest = true

theorem BeforePowerLink.tail {pair : BindedCdevEntry}
    {rest : List BindedCdevEntry} {s' : AllocationState}
    (h : BeforePowerLink input (pair :: rest) s)
    (hallocated : ∀ cdev, cdev ≠ pair.1 → (cdev ∈ s'.allocatedCdev ↔ cdev ∈ s.allocatedCdev))
    (hvalid : s'.powerDataInvalid = false)
    (hfound : powerLinkFirst input.powerStatusMap input.currSeverity rest = true) :
    BeforePowerLink input rest s' where
  allocated pair' hpair' := by
    have hne : pair'.1 ≠ pair.1 := by
      intro hsame
      have hmem := List.mem_map_of_mem (f := Sigma.fst) hpair'
      rw [hsame] at hmem
      exact (List.nodup_cons.mp h.nodup).1 hmem
    rw [hallocated pair'.1 hne]
    exact h.allocated pair' (List.mem_cons_of_mem _ hpair')
  nodup := (List.nodup_cons.mp h.nodup).2
  valid := hvalid
  found := hfound

theorem BeforePowerLink.round {pair : BindedCdevEntry} {rest : List BindedCdevEntry}
    (h : BeforePowerLink input (pair :: rest) s) :
    Meets (checkLowPowerDevice input status pair s)
      (Flow.Ends (BeforePowerLink input rest) (fun _ ↦ False) fun _ ↦ True) fun _ ↦ True := by
  have hfound := h.found
  have hskipped := h.allocated pair List.mem_cons_self
  unfold powerLinkFirst at hfound
  unfold checkLowPowerDevice
  dsimp only
  by_cases hweightless : weightless input.currSeverity pair.2 = true
  · rw [if_pos hweightless] at hfound
    rw [if_pos (hskipped.mpr hweightless)]
    exact h.tail (fun _ _ ↦ Iff.rfl) h.valid hfound
  · rw [if_neg hweightless] at hfound
    rw [if_neg (fun hin ↦ hweightless (hskipped.mp hin))]
    by_cases hrail : pair.2.powerRail = ""
    · rw [if_pos hrail] at hfound
      cases hfound
    · rw [if_neg hrail] at hfound
      unfold getPowerData
      rw [h.valid, if_neg Bool.false_ne_true, if_pos hrail]
      cases hstatus : input.powerStatusMap.lookup pair.2.powerRail with
      | none =>
        rw [hstatus] at hfound
        cases hfound
      | some powerStatus =>
        rw [hstatus] at hfound
        rw [atKey_of_lookup hstatus]
        change Meets ((if powerStatus.lastUpdatedAvgPower.isNaN then _ else _) >>= _) _ _
        change (if powerStatus.lastUpdatedAvgPower.isNaN then _ else _) = true at hfound
        by_cases hnan : powerStatus.lastUpdatedAvgPower.isNaN = true
        · rw [if_pos hnan] at hfound
          cases hfound
        · rw [if_neg hnan] at hfound ⊢
          by_cases hlink : pair.2.throttlingWithPowerLink = true
          · rw [if_pos hlink]
            trivial
          · rw [Bool.eq_false_of_not_eq_true hlink, Bool.false_or] at hfound
            rw [if_neg hlink]
            change Meets (if 0 < (_ : ExactFloat) then _ else pure (Flow.next _)) _ _
            split
            · apply (meets_true _).bind
              intro request _
              split
              · apply h.tail
                · intro cdev hne
                  exact List.mem_cons.trans (or_iff_right hne)
                · rfl
                · exact hfound
              · exact h.tail (fun _ _ ↦ Iff.rfl) rfl hfound
            · exact h.tail (fun _ _ ↦ Iff.rfl) rfl hfound

/-- The first pass is given up at the device with the power link. -/
theorem allocatePasses_of_powerLink {votes : CdevAllRequestMap} {bindings : BindedCdevInfoMap}
    {total : ExactFloat}
    (hfound : powerLinkFirst input.powerStatusMap input.currSeverity bindings.entries = true) :
    Meets (allocatePasses input votes status bindings total)
      (fun result ↦ result.1 = status.pidPowerBudgetMap) fun _ ↦ True := by
  have hallocated := foldl_addWeight_allocated input.round input.currSeverity bindings.entries
  have hstart : BeforePowerLink input bindings.entries
      (initialAllocation input status bindings total) := by
    apply BeforePowerLink.mk
    · intro pair hpair
      apply (hallocated _ pair.1).1.trans
      apply Iff.intro
      · intro hin
        obtain ⟨pair', hpair'⟩ := hin.resolve_left List.not_mem_nil
        have hsame : pair' = pair :=
          List.inj_on_of_nodup_map bindings.nodupKeys hpair'.1 hpair hpair'.2.1
        rw [← hsame]
        exact hpair'.2.2
      · intro hweightless
        exact Or.inr ⟨pair, hpair, rfl, hweightless⟩
    · exact bindings.nodupKeys
    · exact (hallocated _ "").2
    · exact hfound
  have hpass : Meets (iterate (checkLowPowerDevice input status) bindings.entries
        (initialAllocation input status bindings total))
      (Flow.Ends (BeforePowerLink input []) (fun _ ↦ False) fun _ ↦ True) fun _ ↦ True :=
    meets_iterate_rest (J := BeforePowerLink input) (fun _ _ _ h ↦ h.round) hstart
  unfold allocatePasses
  apply ((hpass.and (firstPass_budgets bindings total)).mono (fun _ h ↦ h) fun _ _ ↦ trivial).bind
  intro flow hflow
  cases flow with
  | next s =>
    have hfound : powerLinkFirst input.powerStatusMap input.currSeverity [] = true := hflow.1.found
    cases hfound
  | stop s => exact absurd hflow.1 not_false
  | giveUp s => exact hflow.2

end PowerLink

/-! ## The update of a sensor whose allocation fails -/

/-- The allocation that `thermalThrottlingUpdate` makes for a sensor returns `false`; the status is
`failed` then. -/
structure FailedAllocation (tt : ThermalThrottling) (input : UpdateInput) (info : ThrottlingInfo)
    (status failed : ThermalThrottlingStatus) : Prop where
  registered : tt.thermalThrottlingStatusMap.lookup input.temp.name = some status
  throttled : input.sensorInfo.throttlingInfo = some info
  controlled : status.pidPowerBudgetMap.entries ≠ []
  fails : allocatePowerToCdev input info tt.cdevAllRequestMap (updateProfile input info status) =
    .ok (failed, false)

/-- No PID request of the sensor is left. -/
def PidRequestsReleased (tt : ThermalThrottling) (sensorName : String) : Prop :=
  ∀ status, tt.thermalThrottlingStatusMap.lookup sensorName = some status →
    ∀ cdev request, status.pidCdevRequestMap.lookup cdev = some request → request = 0

/-- A failure at a power link leaves the budgets as they were. Else the allocation fails at a device
without votes, and the devices before it have new budgets. -/
def budgetsLeft (input : UpdateInput) (info : ThrottlingInfo)
    (status failed : ThermalThrottlingStatus) : UnorderedMap String ℤ :=
  if powerLinkFirst input.powerStatusMap input.currSeverity
      (selectBindings info (updateProfile input info status).profile).entries then
    status.pidPowerBudgetMap
  else failed.pidPowerBudgetMap

section Update

variable {tt after : ThermalThrottling} {input : UpdateInput} {info : ThrottlingInfo}
  {status failed : ThermalThrottlingStatus}

theorem updateProfile_budgets :
    (updateProfile input info status).pidPowerBudgetMap = status.pidPowerBudgetMap := by
  unfold updateProfile parseProfileProperty
  split
  · split <;> rfl
  · rfl

theorem updateHardlimit_requests :
    (updateHardlimit input info status).pidCdevRequestMap = status.pidCdevRequestMap := by
  unfold updateHardlimit
  split <;> rfl

theorem updateRelease_requests :
    Meets (updateRelease input info status)
      (fun after ↦ after.pidCdevRequestMap = status.pidCdevRequestMap) fun _ ↦ True := by
  unfold updateRelease
  split
  · unfold throttlingReleaseUpdate
    apply (meets_true _).bind
    intro flow _
    rfl
  · rfl

/-- A failed allocation leaves these budgets. -/
theorem FailedAllocation.budgets (hfailed : FailedAllocation tt input info status failed) :
    failed.pidPowerBudgetMap = budgetsLeft input info status failed := by
  unfold budgetsLeft
  split
  · rename_i hfound
    have hfails := hfailed.fails
    unfold allocatePowerToCdev at hfails
    obtain ⟨budget, hbudget⟩ := bind_eq_ok.mp hfails
    obtain ⟨result, hresult⟩ := bind_eq_ok.mp hbudget.2
    have hsame := (allocatePasses_of_powerLink hfound).of_ok hresult.1
    have hleft : _ = failed := congrArg Prod.fst (Except.ok.inj hresult.2)
    rw [← hleft]
    exact hsame.trans updateProfile_budgets
  · rfl

/-- After a failed allocation the requests of the sensor are zero if and only if every budget that is
left covers the power of state 0. -/
theorem failedAllocation_releases_iff (hfailed : FailedAllocation tt input info status failed)
    (hupdate : thermalThrottlingUpdate tt input = .ok after) :
    PidRequestsReleased after input.temp.name ↔
      BudgetsCover input.coolingDeviceInfoMap (budgetsLeft input info status failed) := by
  rw [← hfailed.budgets]
  unfold thermalThrottlingUpdate at hupdate
  rw [hfailed.registered] at hupdate
  change (deref input.sensorInfo.throttlingInfo >>= _) = _ at hupdate
  rw [hfailed.throttled] at hupdate
  obtain ⟨info', hinfo'⟩ := bind_eq_ok.mp hupdate
  have hinfo : info = info' := Except.ok.inj hinfo'.1
  rw [← hinfo] at hinfo'
  obtain ⟨updated, hupdated⟩ := bind_eq_ok.mp hinfo'.2
  have hafter : after.thermalThrottlingStatusMap.lookup input.temp.name = some updated := by
    rw [← Except.ok.inj hupdated.2, UnorderedMap.lookup_put, if_pos rfl]
  have hstatus := hupdated.1
  unfold updateStatus at hstatus
  obtain ⟨pidUpdated, hpid⟩ := bind_eq_ok.mp hstatus
  have hrequests : updated.pidCdevRequestMap = pidUpdated.pidCdevRequestMap :=
    (updateRelease_requests.of_ok hpid.2).trans updateHardlimit_requests
  have hupdatePid := hpid.1
  unfold updatePid at hupdatePid
  rw [updateProfile_budgets, if_pos hfailed.controlled, hfailed.fails] at hupdatePid
  have hsoFar := (updateCdevRequestByPower_requests _ _).of_ok hupdatePid
  have hreleased := hsoFar.released_iff (by
    intro cdev request hrequest
    rw [if_neg Bool.false_ne_true, UnorderedMap.lookup_mapValues] at hrequest
    obtain ⟨old, hold⟩ := Option.map_eq_some_iff.mp hrequest
    exact hold.2.symm)
  rw [if_neg Bool.false_ne_true] at hreleased
  apply Iff.trans _ hreleased
  rw [← hrequests]
  unfold PidRequestsReleased
  rw [hafter]
  apply Iff.intro
  · intro hzero
    exact hzero updated rfl
  · intro hzero status' hstatus'
    rw [← Option.some.inj hstatus']
    exact hzero

end Update

/-! ## A device with a budget from an earlier cycle -/

/-- A device that throttles with its power link. -/
def linkedInfo : ThrottlingInfo :=
  { (default : ThrottlingInfo) with
    bindedCdevInfoMap := (∅ : BindedCdevInfoMap).insert "cpu"
      { (default : BindedCdevInfo) with
        cdevWeightForPid := fun _ ↦ 1
        powerRail := "VDD_CPU"
        throttlingWithPowerLink := true } }

/-- The device has two states, and its power is known. -/
def linkedInput : UpdateInput where
  temp := ⟨"SKIN", "soc", .fin 45, .light⟩
  sensorInfo := { (default : SensorInfo) with throttlingInfo := some linkedInfo }
  currSeverity := .light
  timeElapsedMs := 1000
  powerStatusMap := (∅ : PowerStatusMap).insert "VDD_CPU" ⟨0, [], .fin 300, true⟩
  coolingDeviceInfoMap := (∅ : CdevInfoMap).insert "cpu"
    { (default : CdevInfo) with state2power := [.fin 1000, .fin 500], maxState := 1 }
  maxThrottling := false
  sensorPredictions := []
  profileProperty := ""
  round := binary32.round

/-- The device has a budget and a request from the cycle before. -/
def linkedStatus (budget request : ℤ) : ThermalThrottlingStatus :=
  { initialStatus with
    pidPowerBudgetMap := (∅ : UnorderedMap String ℤ).insert "cpu" budget
    pidCdevRequestMap := (∅ : UnorderedMap String ℤ).insert "cpu" request
    cdevStatusMap := (∅ : UnorderedMap String ℤ).insert "cpu" request }

def linkedThrottling (budget request : ℤ) : ThermalThrottling where
  thermalThrottlingStatusMap :=
    (∅ : UnorderedMap String ThermalThrottlingStatus).insert "soc" (linkedStatus budget request)
  cdevAllRequestMap := (∅ : CdevAllRequestMap).insert "cpu" ((∅ : OrderedMultiset ℤ).insert request)

theorem linkedThrottling_fails (budget request : ℤ) : ∃ failed,
    FailedAllocation (linkedThrottling budget request) linkedInput linkedInfo
      (linkedStatus budget request) failed := by
  apply Exists.intro
  apply FailedAllocation.mk
  · rfl
  · rfl
  · exact List.cons_ne_nil _ _
  · rfl

/-- The request of the device after the update. -/
def linkedRequest (budget request : ℤ) : Option ℤ :=
  (thermalThrottlingUpdate (linkedThrottling budget request) linkedInput).toOption.bind fun after ↦
    (after.thermalThrottlingStatusMap.lookup "soc").bind fun status ↦
      status.pidCdevRequestMap.lookup "cpu"

theorem linkedThrottling_update {budget request request' : ℤ}
    (hrequest : linkedRequest budget request = some request') : ∃ after status,
    thermalThrottlingUpdate (linkedThrottling budget request) linkedInput = .ok after ∧
      after.thermalThrottlingStatusMap.lookup "soc" = some status ∧
      status.pidCdevRequestMap.lookup "cpu" = some request' := by
  unfold linkedRequest at hrequest
  obtain ⟨after, hafter⟩ := Option.bind_eq_some_iff.mp hrequest
  obtain ⟨status, hstatus⟩ := Option.bind_eq_some_iff.mp hafter.2
  have hupdate := hafter.1
  cases hreturns : thermalThrottlingUpdate (linkedThrottling budget request) linkedInput with
  | error fault =>
    rw [hreturns] at hupdate
    cases hupdate
  | ok after' =>
    rw [hreturns] at hupdate
    have hsame : after' = after := Option.some.inj hupdate
    rw [hsame]
    exact ⟨after, status, rfl, hstatus.1, hstatus.2⟩

/-- With a budget above the power of state 0, the request is released. -/
theorem linkedThrottling_releases : ∃ after,
    thermalThrottlingUpdate (linkedThrottling intMax 1) linkedInput = .ok after ∧
      PidRequestsReleased after "soc" := by
  obtain ⟨failed, hfailed⟩ := linkedThrottling_fails intMax 1
  have hrequest : linkedRequest intMax 1 = some 0 := by decide +kernel
  obtain ⟨after, status, hstatus⟩ := linkedThrottling_update hrequest
  apply Exists.intro after
  apply And.intro hstatus.1
  have hcovers : BudgetsCover linkedInput.coolingDeviceInfoMap
      (budgetsLeft linkedInput linkedInfo (linkedStatus intMax 1) failed) := by
    intro cdev budget cdevInfo hbudget hcdevInfo
    have hbudgetMax := (UnorderedMap.eq_of_lookup_insert_empty hbudget).2
    have hdevice := (UnorderedMap.eq_of_lookup_insert_empty hcdevInfo).2
    rw [hbudgetMax, hdevice]
    exact Or.inr ⟨_, rfl, by decide +kernel⟩
  exact (failedAllocation_releases_iff hfailed hstatus.1).mpr hcovers

/-- With a budget below it, the device stays in state 1. -/
theorem linkedThrottling_keeps :
    ¬ ∀ (tt after : ThermalThrottling) (input : UpdateInput) (info : ThrottlingInfo)
      (status failed : ThermalThrottlingStatus), FailedAllocation tt input info status failed →
        thermalThrottlingUpdate tt input = .ok after →
          PidRequestsReleased after input.temp.name := by
  intro hreleases
  obtain ⟨failed, hfailed⟩ := linkedThrottling_fails 500 1
  have hrequest : linkedRequest 500 1 = some 1 := by decide +kernel
  obtain ⟨after, status, hstatus⟩ := linkedThrottling_update hrequest
  have hzero := hreleases _ _ _ _ _ _ hfailed hstatus.1 status hstatus.2.1 "cpu" 1 hstatus.2.2
  exact absurd hzero one_ne_zero

end HardwareMediatek.Thermal
