import HardwareMediatek.Thermal.Votes

/-!
# What registration fills

Registration gives a sensor an entry in each map that its default binding
configures: a budget and a request for every device with a weight, a request
for every device with a hard limit, a release step for every device with a
power threshold, and a vote for every device with a weight or a limit. No
later call adds or removes a key, so the maps of a registered sensor have
these keys in every state that a run reaches.
-/

namespace HardwareMediatek.Thermal

open UnorderedMap

/-- A device that is bound in a way that satisfies `p`. -/
def BoundWith (p : BindedCdevInfo → Bool) (bindings : BindedCdevInfoMap) (cdev : String) : Prop :=
  ∃ binding, bindings.lookup cdev = some binding ∧ p binding

/-- A binding for the PID algorithm or for a hard limit. -/
def hasVote (binding : BindedCdevInfo) : Bool := hasPidWeight binding || hasHardLimit binding

/-- The status of a sensor whose default binding is registered. -/
structure RegisteredStatus (coolingDeviceInfoMap : CdevInfoMap) (bindings : BindedCdevInfoMap)
    (status : ThermalThrottlingStatus) : Prop where
  devices : ∀ cdev ∈ bindings, cdev ∈ coolingDeviceInfoMap
  budgets : ∀ cdev, cdev ∈ status.pidPowerBudgetMap ↔ BoundWith hasPidWeight bindings cdev
  requests : ∀ cdev, cdev ∈ status.pidCdevRequestMap ↔ BoundWith hasPidWeight bindings cdev
  hardlimits : ∀ cdev, cdev ∈ status.hardlimitCdevRequestMap ↔ BoundWith hasHardLimit bindings cdev
  releases : ∀ cdev, cdev ∈ status.throttlingReleaseMap ↔
    BoundWith hasReleaseThreshold bindings cdev
  votes : ∀ cdev, cdev ∈ status.cdevStatusMap ↔ BoundWith hasVote bindings cdev

theorem SameShape.registeredStatus {status status' : ThermalThrottlingStatus}
    (hshape : SameShape status status') {devices : CdevInfoMap} {bindings : BindedCdevInfoMap}
    (h : RegisteredStatus devices bindings status) :
    RegisteredStatus devices bindings status' where
  devices := h.devices
  budgets cdev := (mem_iff_of_keys_eq hshape.budgets cdev).trans (h.budgets cdev)
  requests cdev := (mem_iff_of_keys_eq hshape.requests cdev).trans (h.requests cdev)
  hardlimits cdev := (mem_iff_of_keys_eq hshape.hardlimits cdev).trans (h.hardlimits cdev)
  releases cdev := (mem_iff_of_keys_eq hshape.releases cdev).trans (h.releases cdev)
  votes cdev := (mem_iff_of_keys_eq hshape.votes cdev).trans (h.votes cdev)

section Bindings

variable {devices : CdevInfoMap}

theorem registerBindings_devices {pairs : List BindedCdevEntry}
    {entry : RegistrationEntry} (h : (registerBindings devices pairs entry).2 = true) :
    ∀ pair ∈ pairs, pair.1 ∈ devices := by
  induction pairs generalizing entry with
  | nil => exact fun pair hpair ↦ absurd hpair List.not_mem_nil
  | cons pair rest ih =>
    obtain ⟨cdev, binding⟩ := pair
    rw [registerBindings] at h
    split at h
    · rename_i hcdev
      intro pair' hpair'
      rcases List.mem_cons.mp hpair' with rfl | hrest
      · exact hcdev
      · exact ih h pair' hrest
    · cases h

/-- A map gets a key for each binding that satisfies `p`. -/
def Fills (p : BindedCdevInfo → Bool)
    (filled : ThermalThrottlingStatus → UnorderedMap String ℤ) : Prop :=
  ∀ cdev binding entry cdev', cdev' ∈ filled (registerBinding cdev binding entry).1 ↔
    (cdev' = cdev ∧ p binding) ∨ cdev' ∈ filled entry.1

/-- Such a map ends with exactly those keys. -/
theorem registerBindings_keys {p : BindedCdevInfo → Bool}
    {filled : ThermalThrottlingStatus → UnorderedMap String ℤ} (hfilled : Fills p filled)
    {pairs : List BindedCdevEntry} {entry : RegistrationEntry}
    (h : (registerBindings devices pairs entry).2 = true) (cdev : String) :
    cdev ∈ filled (registerBindings devices pairs entry).1.1 ↔
      (∃ pair ∈ pairs, pair.1 = cdev ∧ p pair.2) ∨ cdev ∈ filled entry.1 := by
  induction pairs generalizing entry with
  | nil => simp [registerBindings]
  | cons pair rest ih =>
    obtain ⟨bound, binding⟩ := pair
    rw [registerBindings] at h ⊢
    split at h
    · rename_i hbound
      have hswap : cdev = bound ↔ bound = cdev := eq_comm
      rw [if_pos hbound, ih h, hfilled, List.exists_mem_cons_iff, hswap]
      exact or_left_comm.trans or_assoc.symm
    · cases h

theorem registerBinding_budgets : Fills hasPidWeight ThermalThrottlingStatus.pidPowerBudgetMap := by
  intro cdev binding entry cdev'
  unfold registerBinding registerRelease registerHardLimit registerPid
  cases hasPidWeight binding <;> cases hasHardLimit binding <;>
    cases hasReleaseThreshold binding <;> simp [mem_put]

theorem registerBinding_requests : Fills hasPidWeight ThermalThrottlingStatus.pidCdevRequestMap := by
  intro cdev binding entry cdev'
  unfold registerBinding registerRelease registerHardLimit registerPid
  cases hasPidWeight binding <;> cases hasHardLimit binding <;>
    cases hasReleaseThreshold binding <;> simp [mem_put]

theorem registerBinding_hardlimits : Fills hasHardLimit ThermalThrottlingStatus.hardlimitCdevRequestMap := by
  intro cdev binding entry cdev'
  unfold registerBinding registerRelease registerHardLimit registerPid
  cases hasPidWeight binding <;> cases hasHardLimit binding <;>
    cases hasReleaseThreshold binding <;> simp [mem_put]

theorem registerBinding_releases : Fills hasReleaseThreshold ThermalThrottlingStatus.throttlingReleaseMap := by
  intro cdev binding entry cdev'
  unfold registerBinding registerRelease registerHardLimit registerPid
  cases hasPidWeight binding <;> cases hasHardLimit binding <;>
    cases hasReleaseThreshold binding <;> simp [mem_put]

theorem registerBinding_votes : Fills hasVote ThermalThrottlingStatus.cdevStatusMap := by
  intro cdev binding entry cdev'
  unfold registerBinding registerRelease registerHardLimit registerPid hasVote
  cases hasPidWeight binding <;> cases hasHardLimit binding <;>
    cases hasReleaseThreshold binding <;> simp [mem_put]

theorem boundWith_iff {p : BindedCdevInfo → Bool} {bindings : BindedCdevInfoMap} {cdev : String} :
    BoundWith p bindings cdev ↔ ∃ pair ∈ bindings.entries, pair.1 = cdev ∧ p pair.2 := by
  constructor
  · rintro ⟨binding, hlookup, hp⟩
    exact ⟨⟨cdev, binding⟩, mem_entries_iff.mpr hlookup, rfl, hp⟩
  · rintro ⟨⟨_, binding⟩, hentry, rfl, hp⟩
    exact ⟨binding, mem_entries_iff.mp hentry, hp⟩

/-- The bindings of a sensor, registered from the beginning. -/
theorem registerBindings_registered {bindings : BindedCdevInfoMap} {votes : CdevAllRequestMap}
    (h : (registerBindings devices bindings.entries (initialStatus, votes)).2 = true) :
    RegisteredStatus devices bindings
      (registerBindings devices bindings.entries (initialStatus, votes)).1.1 where
  devices cdev hcdev := by
    obtain ⟨binding, hlookup⟩ := mem_iff_lookup.mp hcdev
    exact registerBindings_devices h ⟨cdev, binding⟩ (mem_entries_iff.mpr hlookup)
  budgets cdev := by
    rw [registerBindings_keys registerBinding_budgets h, boundWith_iff]
    simp [initialStatus]
  requests cdev := by
    rw [registerBindings_keys registerBinding_requests h, boundWith_iff]
    simp [initialStatus]
  hardlimits cdev := by
    rw [registerBindings_keys registerBinding_hardlimits h, boundWith_iff]
    simp [initialStatus]
  releases cdev := by
    rw [registerBindings_keys registerBinding_releases h, boundWith_iff]
    simp [initialStatus]
  votes cdev := by
    rw [registerBindings_keys registerBinding_votes h, boundWith_iff]
    simp [initialStatus]

end Bindings

/-! ## All sensors -/

section Sensors

variable {devices : CdevInfoMap}

/-- Registering a sensor with success adds its status, and keeps those of the others. -/
theorem registerThermalThrottling_registered {tt tt' : ThermalThrottling} {sensorName : String}
    {info : ThrottlingInfo}
    (h : registerThermalThrottling tt sensorName (some info) devices = (tt', true)) :
    sensorName ∉ tt.thermalThrottlingStatusMap ∧
      ∃ status, RegisteredStatus devices info.bindedCdevInfoMap status ∧
        tt'.thermalThrottlingStatusMap = tt.thermalThrottlingStatusMap.put sensorName status := by
  unfold registerThermalThrottling at h
  split at h
  · cases h
  · rename_i hnew
    obtain ⟨rfl, hsucceeded⟩ := Prod.mk.injEq .. ▸ h
    exact ⟨hnew, _, registerBindings_registered hsucceeded, rfl⟩

/-- A registered sensor keeps its status while further sensors are registered. -/
theorem registerSensors_keeps {sensors : List SensorEntry}
    {tt tt' : ThermalThrottling} (h : registerSensors devices sensors tt = some tt')
    {sensor : String} {status : ThermalThrottlingStatus}
    (hlookup : tt.thermalThrottlingStatusMap.lookup sensor = some status) :
    tt'.thermalThrottlingStatusMap.lookup sensor = some status := by
  induction sensors generalizing tt with
  | nil =>
    obtain rfl := Option.some.inj h
    exact hlookup
  | cons entry rest ih =>
    obtain ⟨sensorName, sensorInfo⟩ := entry
    rw [registerSensors] at h
    cases hinfo : sensorInfo.throttlingInfo with
    | none =>
      rw [hinfo] at h
      exact ih h hlookup
    | some info =>
      simp only [hinfo] at h
      split at h
      · rename_i hregistered
        obtain ⟨hnew, status', -, hput⟩ := registerThermalThrottling_registered
          (Prod.ext rfl hregistered)
        apply ih h
        rw [hput, lookup_put, if_neg]
        · exact hlookup
        · rintro rfl
          exact hnew (mem_of_lookup hlookup)
      · cases h

/-- Every status belongs to a sensor of the list, or was there before. -/
theorem registerSensors_statuses {sensors : List SensorEntry}
    {tt tt' : ThermalThrottling} (h : registerSensors devices sensors tt = some tt')
    {sensor : String} {status : ThermalThrottlingStatus}
    (hlookup : tt'.thermalThrottlingStatusMap.lookup sensor = some status) :
    tt.thermalThrottlingStatusMap.lookup sensor = some status ∨
      ∃ entry ∈ sensors, entry.1 = sensor ∧ ∃ info, entry.2.throttlingInfo = some info ∧
        RegisteredStatus devices info.bindedCdevInfoMap status := by
  induction sensors generalizing tt with
  | nil =>
    obtain rfl := Option.some.inj h
    exact Or.inl hlookup
  | cons entry rest ih =>
    obtain ⟨sensorName, sensorInfo⟩ := entry
    rw [registerSensors] at h
    cases hinfo : sensorInfo.throttlingInfo with
    | none =>
      rw [hinfo] at h
      rcases ih h with hold | ⟨entry, hentry, hsensor⟩
      · exact Or.inl hold
      · exact Or.inr ⟨entry, List.mem_cons_of_mem _ hentry, hsensor⟩
    | some info =>
      simp only [hinfo] at h
      split at h
      · rename_i hregistered
        obtain ⟨-, status', hstatus', hput⟩ := registerThermalThrottling_registered
          (Prod.ext rfl hregistered)
        rcases ih h with hold | ⟨entry, hentry, hsensor⟩
        · rw [hput, lookup_put] at hold
          split at hold
          · rename_i hsensor
            obtain rfl := Option.some.inj hold
            exact Or.inr ⟨⟨sensorName, sensorInfo⟩, List.mem_cons_self, hsensor.symm, info, hinfo,
              hstatus'⟩
          · exact Or.inl hold
        · exact Or.inr ⟨entry, List.mem_cons_of_mem _ hentry, hsensor⟩
      · cases h

/-- Every sensor of the list that has throttling has a status. -/
theorem registerSensors_registered {sensors : List SensorEntry}
    {tt tt' : ThermalThrottling} (h : registerSensors devices sensors tt = some tt')
    {entry : SensorEntry} (hentry : entry ∈ sensors) {info : ThrottlingInfo}
    (hinfo : entry.2.throttlingInfo = some info) :
    ∃ status, tt'.thermalThrottlingStatusMap.lookup entry.1 = some status ∧
      RegisteredStatus devices info.bindedCdevInfoMap status := by
  induction sensors generalizing tt with
  | nil => exact absurd hentry List.not_mem_nil
  | cons first rest ih =>
    obtain ⟨sensorName, sensorInfo⟩ := first
    rw [registerSensors] at h
    cases hfirst : sensorInfo.throttlingInfo with
    | none =>
      rw [hfirst] at h
      rcases List.mem_cons.mp hentry with rfl | hrest
      · rw [hfirst] at hinfo
        cases hinfo
      · exact ih h hrest
    | some info' =>
      simp only [hfirst] at h
      split at h
      · rename_i hregistered
        rcases List.mem_cons.mp hentry with rfl | hrest
        · obtain ⟨-, status', hstatus', hput⟩ := registerThermalThrottling_registered
            (Prod.ext rfl hregistered)
          obtain rfl : info' = info := Option.some.inj (hfirst.symm.trans hinfo)
          refine ⟨status', registerSensors_keeps h ?_, hstatus'⟩
          rw [hput, lookup_put, if_pos rfl]
        · exact ih h hrest
      · cases h

/-- A registered sensor keeps its keys over a run. -/
theorem lasting_registeredStatus (setup : ThrottlingSetup)
    (Bound : String → BindedCdevInfoMap → Prop) :
    Lasting setup fun sensor status ↦ ∃ bindings, Bound sensor bindings ∧
      RegisteredStatus setup.coolingDeviceInfoMap bindings status where
  frame := by
    rintro sensor status status' hframe ⟨bindings, hbound, hregistered⟩
    exact ⟨bindings, hbound, hframe.shape.registeredStatus hregistered⟩
  compute := by
    rintro sensor sensorInfo info currSeverity status votes - - hvotes ⟨bindings, hbound, hregistered⟩
    have hshape : SameShape status { status with cdevStatusMap := votes } :=
      ⟨rfl, rfl, rfl, rfl, hvotes.keys⟩
    exact ⟨bindings, hbound, hshape.registeredStatus hregistered⟩

end Sensors

end HardwareMediatek.Thermal
