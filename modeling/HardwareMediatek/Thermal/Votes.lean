import HardwareMediatek.Thermal.ThrottlingRun

/-!
# The collected votes mirror the sensors

Abstractly, every sensor casts at most one vote for a cooling device, and the
device is throttled to the greatest vote. The code keeps the votes twice: in
the status of each sensor, and in one collection per device that the sensors
share. This module shows that the two never drift apart. The collection of a
device holds the votes of the sensors and, beyond them, only zeros, which
registration leaves behind when a device is bound for both algorithms.
-/

namespace HardwareMediatek.Thermal

open UnorderedMap

/-! ## The votes for a device -/

/-- The votes that the sensors of a map cast for a cooling device. -/
def votesFor (statusMap : UnorderedMap String ThermalThrottlingStatus) (cdev : String) :
    Multiset ℤ :=
  (statusMap.entries.filterMap fun entry ↦ entry.2.cdevStatusMap.lookup cdev : List ℤ)

/-- The collection of votes of a cooling device. -/
def ballotOf (votes : CdevAllRequestMap) (cdev : String) : Multiset ℤ :=
  ((votes.lookup cdev).getD ∅).toMultiset

/-- The greatest element of the collection of a device. -/
def maxRequest (votes : CdevAllRequestMap) (cdev : String) : Option ℤ :=
  (votes.lookup cdev).bind OrderedMultiset.begin?

/-- The votes of one sensor, if it casts one, and of the others. -/
def consVote (vote : Option ℤ) (others : Multiset ℤ) : Multiset ℤ :=
  match vote with
  | some v => v ::ₘ others
  | none => others

theorem votesFor_of_lookup {statusMap : UnorderedMap String ThermalThrottlingStatus}
    {sensor : String} {status : ThermalThrottlingStatus}
    (h : statusMap.lookup sensor = some status) (cdev : String) :
    votesFor statusMap cdev =
      consVote (status.cdevStatusMap.lookup cdev) (votesFor (statusMap.erase sensor) cdev) := by
  have hperm := (perm_cons_erase h).filterMap fun entry ↦ entry.2.cdevStatusMap.lookup cdev
  unfold votesFor consVote
  rw [Multiset.coe_eq_coe.mpr hperm]
  cases hvote : status.cdevStatusMap.lookup cdev with
  | none => simp [hvote]
  | some vote => simp [hvote]

theorem votesFor_put (statusMap : UnorderedMap String ThermalThrottlingStatus) (sensor : String)
    (status : ThermalThrottlingStatus) (cdev : String) :
    votesFor (statusMap.put sensor status) cdev =
      consVote (status.cdevStatusMap.lookup cdev) (votesFor (statusMap.erase sensor) cdev) := by
  have hperm := (perm_put statusMap sensor status).filterMap
    fun entry ↦ entry.2.cdevStatusMap.lookup cdev
  unfold votesFor consVote
  rw [Multiset.coe_eq_coe.mpr hperm]
  cases hvote : status.cdevStatusMap.lookup cdev with
  | none => simp [hvote]
  | some vote => simp [hvote]

/-- A new sensor adds its votes to those of the others. -/
theorem votesFor_put_of_not_mem {statusMap : UnorderedMap String ThermalThrottlingStatus}
    {sensor : String} (h : sensor ∉ statusMap) (status : ThermalThrottlingStatus) (cdev : String) :
    votesFor (statusMap.put sensor status) cdev =
      consVote (status.cdevStatusMap.lookup cdev) (votesFor statusMap cdev) := by
  have herase : (statusMap.erase sensor).entries = statusMap.entries := by
    have hmem : sensor ∉ statusMap.entries.keys := fun hk ↦ h (AList.mem_keys.mpr hk)
    exact List.kerase_of_notMem_keys hmem
  rw [votesFor_put]
  unfold votesFor
  rw [herase]

theorem mem_votesFor {statusMap : UnorderedMap String ThermalThrottlingStatus} {cdev : String}
    {vote : ℤ} :
    vote ∈ votesFor statusMap cdev ↔
      ∃ sensor status, statusMap.lookup sensor = some status ∧
        status.cdevStatusMap.lookup cdev = some vote := by
  unfold votesFor
  rw [Multiset.mem_coe, List.mem_filterMap]
  constructor
  · rintro ⟨⟨sensor, status⟩, hentry, hvote⟩
    exact ⟨sensor, status, mem_entries_iff.mp hentry, hvote⟩
  · rintro ⟨sensor, status, hlookup, hvote⟩
    exact ⟨⟨sensor, status⟩, mem_entries_iff.mpr hlookup, hvote⟩

theorem ballotOf_put (votes : CdevAllRequestMap) (cdev cdev' : String) (s : OrderedMultiset ℤ) :
    ballotOf (votes.put cdev s) cdev' = if cdev' = cdev then s.toMultiset else ballotOf votes cdev' := by
  unfold ballotOf
  rw [lookup_put]
  split <;> rfl

theorem maxRequest_put (votes : CdevAllRequestMap) (cdev cdev' : String) (s : OrderedMultiset ℤ) :
    maxRequest (votes.put cdev s) cdev' =
      if cdev' = cdev then s.begin? else maxRequest votes cdev' := by
  unfold maxRequest
  rw [lookup_put]
  split <;> rfl

theorem maxRequest_eq_some_iff {votes : CdevAllRequestMap} {cdev : String} {m : ℤ} :
    maxRequest votes cdev = some m ↔
      m ∈ ballotOf votes cdev ∧ ∀ x ∈ ballotOf votes cdev, x ≤ m := by
  unfold maxRequest ballotOf
  cases votes.lookup cdev with
  | none => simp
  | some s => exact OrderedMultiset.begin?_eq_some_iff

/-- A collection with an element has a maximum, and `getCdevMaxRequest` returns it. -/
theorem getCdevMaxRequest_eq {votes : CdevAllRequestMap} {cdev : String}
    (h : cdev ∈ votes → ballotOf votes cdev ≠ 0) :
    getCdevMaxRequest votes cdev = .ok (maxRequest votes cdev) := by
  unfold getCdevMaxRequest maxRequest
  cases hlookup : votes.lookup cdev with
  | none => rfl
  | some s =>
    have hne : s.toMultiset ≠ 0 := by
      simpa [ballotOf, hlookup] using h (mem_of_lookup hlookup)
    obtain ⟨m, hm⟩ := Option.isSome_iff_exists.mp (OrderedMultiset.begin?_isSome hne)
    simp [hm]

/-! ## The invariant -/

/-- The collections mirror the votes of the sensors, and only devices with votes have one. -/
structure VotesMirrored (tt : ThermalThrottling) : Prop where
  mirrors : ∀ cdev, Mirrors (ballotOf tt.cdevAllRequestMap cdev)
    (votesFor tt.thermalThrottlingStatusMap cdev) 0
  counted : ∀ cdev ∈ tt.cdevAllRequestMap, votesFor tt.thermalThrottlingStatusMap cdev ≠ 0

namespace VotesMirrored

variable {tt : ThermalThrottling}

theorem empty : VotesMirrored .empty where
  mirrors _ := Mirrors.zero 0
  counted cdev h := absurd h (AList.notMem_empty cdev)

theorem ballot_ne_zero (h : VotesMirrored tt) {cdev : String}
    (hvotes : votesFor tt.thermalThrottlingStatusMap cdev ≠ 0) :
    ballotOf tt.cdevAllRequestMap cdev ≠ 0 := by
  obtain ⟨vote, hvote⟩ := Multiset.exists_mem_of_ne_zero hvotes
  intro hzero
  have hmem := (h.mirrors cdev).mem hvote
  rw [hzero] at hmem
  exact Multiset.notMem_zero vote hmem

theorem getCdevMaxRequest_eq (h : VotesMirrored tt) (cdev : String) :
    getCdevMaxRequest tt.cdevAllRequestMap cdev = .ok (maxRequest tt.cdevAllRequestMap cdev) :=
  Thermal.getCdevMaxRequest_eq fun hmem ↦ h.ballot_ne_zero (h.counted cdev hmem)

/-- The aggregated request is the greatest vote of the sensors, if none of them is negative. -/
theorem maxRequest_eq_some_iff (h : VotesMirrored tt) {cdev : String} {m : ℤ}
    (hnonneg : ∀ vote ∈ votesFor tt.thermalThrottlingStatusMap cdev, 0 ≤ vote) :
    maxRequest tt.cdevAllRequestMap cdev = some m ↔
      m ∈ votesFor tt.thermalThrottlingStatusMap cdev ∧
        ∀ vote ∈ votesFor tt.thermalThrottlingStatusMap cdev, vote ≤ m := by
  rw [Thermal.maxRequest_eq_some_iff]
  by_cases hvotes : votesFor tt.thermalThrottlingStatusMap cdev = 0
  · have hballot : ballotOf tt.cdevAllRequestMap cdev = 0 := by
      have hnot : cdev ∉ tt.cdevAllRequestMap := fun hmem ↦ h.counted cdev hmem hvotes
      rw [ballotOf, AList.lookup_eq_none.mpr hnot]
      rfl
    simp [hvotes, hballot]
  · exact (h.mirrors cdev).isGreatest_iff hvotes hnonneg

theorem maxRequest_isSome (h : VotesMirrored tt) {cdev : String}
    (hvotes : votesFor tt.thermalThrottlingStatusMap cdev ≠ 0) :
    (maxRequest tt.cdevAllRequestMap cdev).isSome := by
  have hballot := h.ballot_ne_zero hvotes
  unfold ballotOf at hballot
  unfold maxRequest
  cases hlookup : tt.cdevAllRequestMap.lookup cdev with
  | none =>
    rw [hlookup] at hballot
    exact absurd rfl hballot
  | some s =>
    rw [hlookup] at hballot
    exact OrderedMultiset.begin?_isSome hballot

end VotesMirrored

/-! ## Registration -/

section Registration

variable {others : String → Multiset ℤ}

/-- What holds while a sensor is being registered: `others` are the votes of the sensors before
it, and every vote and request of the new one is zero. -/
structure RegistrationInvariant (others : String → Multiset ℤ)
    (entry : RegistrationEntry) : Prop where
  mirrors : ∀ cdev, Mirrors (ballotOf entry.2 cdev)
    (consVote (entry.1.cdevStatusMap.lookup cdev) (others cdev)) 0
  counted : ∀ cdev ∈ entry.2, consVote (entry.1.cdevStatusMap.lookup cdev) (others cdev) ≠ 0
  votes : ∀ cdev vote, entry.1.cdevStatusMap.lookup cdev = some vote → vote = 0
  requests : ∀ cdev request, entry.1.pidCdevRequestMap.lookup cdev = some request → request = 0

/-- Casting the vote 0, for the first time or again, together with one more 0 in the collection. -/
theorem RegistrationInvariant.castZero
    {entry : RegistrationEntry} (h : RegistrationInvariant others entry) (cdev : String)
    {status' : ThermalThrottlingStatus}
    (hvotes : status'.cdevStatusMap = entry.1.cdevStatusMap.put cdev 0)
    (hrequests : ∀ cdev request, status'.pidCdevRequestMap.lookup cdev = some request →
      request = 0) :
    RegistrationInvariant others (status', insertVote entry.2 cdev) := by
  have hballot : ∀ cdev', ballotOf (insertVote entry.2 cdev) cdev' =
      if cdev' = cdev then 0 ::ₘ ballotOf entry.2 cdev else ballotOf entry.2 cdev' := by
    intro cdev'
    rw [insertVote, ballotOf_put, OrderedMultiset.toMultiset_insert]
    rfl
  refine ⟨fun cdev' ↦ ?_, fun cdev' hmem ↦ ?_, fun cdev' vote hvote ↦ ?_, hrequests⟩
  · dsimp only
    rw [hballot, hvotes, lookup_put]
    by_cases hc : cdev' = cdev
    · subst hc
      rw [if_pos rfl, if_pos rfl]
      cases hold : entry.1.cdevStatusMap.lookup cdev' with
      | none =>
        have hmirrors := h.mirrors cdev'
        rw [hold] at hmirrors
        exact hmirrors.cons_vote 0
      | some vote =>
        have hmirrors := h.mirrors cdev'
        rw [hold, h.votes cdev' vote hold] at hmirrors
        exact hmirrors.cons_neutral
    · rw [if_neg hc, if_neg hc]
      exact h.mirrors cdev'
  · dsimp only at hmem ⊢
    rw [hvotes, lookup_put]
    by_cases hc : cdev' = cdev
    · rw [if_pos hc]
      exact Multiset.cons_ne_zero
    · rw [if_neg hc]
      refine h.counted cdev' ?_
      rw [insertVote, mem_put] at hmem
      exact hmem.resolve_left hc
  · dsimp only at hvote
    rw [hvotes, lookup_put] at hvote
    split at hvote
    · exact (Option.some.inj hvote).symm
    · exact h.votes cdev' vote hvote

theorem lookup_put_eq_zero {requests : UnorderedMap String ℤ} {cdev : String}
    (h : ∀ cdev request, requests.lookup cdev = some request → request = 0) :
    ∀ cdev' request, (requests.put cdev 0).lookup cdev' = some request → request = 0 := by
  intro cdev' request hlookup
  rw [lookup_put] at hlookup
  split at hlookup
  · exact (Option.some.inj hlookup).symm
  · exact h cdev' request hlookup

theorem registerBinding_invariant {entry : RegistrationEntry}
    (h : RegistrationInvariant others entry) (cdev : String) (binding : BindedCdevInfo) :
    RegistrationInvariant others (registerBinding cdev binding entry) := by
  have hpid : RegistrationInvariant others (registerPid cdev binding entry) := by
    unfold registerPid
    split
    · exact h.castZero cdev rfl (lookup_put_eq_zero h.requests)
    · exact h
  have hlimit : RegistrationInvariant others
      (registerHardLimit cdev binding (registerPid cdev binding entry)) := by
    unfold registerHardLimit
    split
    · exact hpid.castZero cdev rfl hpid.requests
    · exact hpid
  unfold registerBinding registerRelease
  split
  · exact ⟨hlimit.mirrors, hlimit.counted, hlimit.votes, hlimit.requests⟩
  · exact hlimit

theorem registerBindings_invariant {coolingDeviceInfoMap : CdevInfoMap}
    (pairs : List BindedCdevEntry) {entry : RegistrationEntry}
    (h : RegistrationInvariant others entry) :
    RegistrationInvariant others (registerBindings coolingDeviceInfoMap pairs entry).1 := by
  induction pairs generalizing entry with
  | nil => exact h
  | cons pair rest ih =>
    obtain ⟨cdev, binding⟩ := pair
    unfold registerBindings
    split
    · exact ih (registerBinding_invariant h cdev binding)
    · exact h

/-- The invariant holds for the bindings of a sensor that is registered beside those of `tt`. -/
theorem VotesMirrored.registerBindings {tt : ThermalThrottling} (h : VotesMirrored tt)
    (coolingDeviceInfoMap : CdevInfoMap) (bindings : BindedCdevInfoMap) :
    RegistrationInvariant (votesFor tt.thermalThrottlingStatusMap)
      (registerBindings coolingDeviceInfoMap bindings.entries
        (initialStatus, tt.cdevAllRequestMap)).1 := by
  refine registerBindings_invariant bindings.entries
    ⟨h.mirrors, h.counted, fun cdev vote hvote ↦ ?_, fun cdev request hrequest ↦ ?_⟩
  · rw [initialStatus, AList.lookup_empty] at hvote
    cases hvote
  · rw [initialStatus, AList.lookup_empty] at hrequest
    cases hrequest

theorem registerThermalThrottling_mirrored {tt : ThermalThrottling} (h : VotesMirrored tt)
    (sensorName : String) (throttlingInfo : Option ThrottlingInfo)
    (coolingDeviceInfoMap : CdevInfoMap) :
    VotesMirrored
      (registerThermalThrottling tt sensorName throttlingInfo coolingDeviceInfoMap).1 := by
  unfold registerThermalThrottling
  split
  · exact h
  · rename_i hnew
    cases throttlingInfo with
    | none => exact h
    | some info =>
      have hdone := h.registerBindings coolingDeviceInfoMap info.bindedCdevInfoMap
      refine ⟨fun cdev ↦ ?_, fun cdev hmem ↦ ?_⟩
      · rw [votesFor_put_of_not_mem hnew]
        exact hdone.mirrors cdev
      · rw [votesFor_put_of_not_mem hnew]
        exact hdone.counted cdev hmem

/-- Every vote and every request of the PID algorithm is zero. -/
structure Unthrottled (status : ThermalThrottlingStatus) : Prop where
  votes : ∀ cdev vote, status.cdevStatusMap.lookup cdev = some vote → vote = 0
  requests : ∀ cdev request, status.pidCdevRequestMap.lookup cdev = some request → request = 0

theorem registerThermalThrottling_unthrottled {tt : ThermalThrottling} (h : VotesMirrored tt)
    (hzero : EveryStatus (fun _ ↦ Unthrottled) tt) (sensorName : String)
    (throttlingInfo : Option ThrottlingInfo) (coolingDeviceInfoMap : CdevInfoMap) :
    EveryStatus (fun _ ↦ Unthrottled)
      (registerThermalThrottling tt sensorName throttlingInfo coolingDeviceInfoMap).1 := by
  unfold registerThermalThrottling
  split
  · exact hzero
  · cases throttlingInfo with
    | none => exact hzero
    | some info =>
      have hdone := h.registerBindings coolingDeviceInfoMap info.bindedCdevInfoMap
      exact hzero.put ⟨hdone.votes, hdone.requests⟩ _

/-- After registration the votes are mirrored, and all of them are zero. -/
theorem registerSensors_mirrored {coolingDeviceInfoMap : CdevInfoMap}
    {sensors : List SensorEntry} {tt tt' : ThermalThrottling}
    (h : VotesMirrored tt) (hzero : EveryStatus (fun _ ↦ Unthrottled) tt)
    (hregister : registerSensors coolingDeviceInfoMap sensors tt = some tt') :
    VotesMirrored tt' ∧ EveryStatus (fun _ ↦ Unthrottled) tt' := by
  induction sensors generalizing tt with
  | nil =>
    obtain rfl := Option.some.inj hregister
    exact ⟨h, hzero⟩
  | cons sensor rest ih =>
    obtain ⟨sensorName, sensorInfo⟩ := sensor
    unfold registerSensors at hregister
    cases hinfo : sensorInfo.throttlingInfo with
    | none =>
      rw [hinfo] at hregister
      exact ih h hzero hregister
    | some info =>
      rw [hinfo] at hregister
      dsimp only at hregister
      split at hregister
      · exact ih (registerThermalThrottling_mirrored h _ _ _)
          (registerThermalThrottling_unthrottled h hzero _ _ _) hregister
      · cases hregister

end Registration

/-! ## Clearing and updating a sensor -/

/-- Replacing the status of a sensor by one with the same votes. -/
theorem VotesMirrored.updateFrame {tt : ThermalThrottling} (h : VotesMirrored tt) {sensor : String}
    {status status' : ThermalThrottlingStatus}
    (hlookup : tt.thermalThrottlingStatusMap.lookup sensor = some status)
    (hframe : UpdateFrame status status') :
    VotesMirrored { tt with
      thermalThrottlingStatusMap := tt.thermalThrottlingStatusMap.put sensor status' } := by
  have hvotes : ∀ cdev, votesFor (tt.thermalThrottlingStatusMap.put sensor status') cdev =
      votesFor tt.thermalThrottlingStatusMap cdev := by
    intro cdev
    rw [votesFor_put, votesFor_of_lookup hlookup, hframe.votes]
  refine ⟨fun cdev ↦ ?_, fun cdev hmem ↦ ?_⟩
  · rw [hvotes]
    exact h.mirrors cdev
  · rw [hvotes]
    exact h.counted cdev hmem

theorem clearThrottlingData_mirrored {tt : ThermalThrottling} (h : VotesMirrored tt)
    (sensorName : String) : VotesMirrored (clearThrottlingData tt sensorName) := by
  unfold clearThrottlingData
  cases hlookup : tt.thermalThrottlingStatusMap.lookup sensorName with
  | none => exact h
  | some status => exact h.updateFrame hlookup clearStatus_frame

theorem thermalThrottlingUpdate_mirrored {tt : ThermalThrottling} (h : VotesMirrored tt)
    (input : UpdateInput) :
    Meets (thermalThrottlingUpdate tt input)
      (fun tt' ↦ VotesMirrored tt' ∧ tt'.cdevAllRequestMap = tt.cdevAllRequestMap)
      fun _ ↦ True := by
  unfold thermalThrottlingUpdate
  cases hlookup : tt.thermalThrottlingStatusMap.lookup input.temp.name with
  | none => exact ⟨h, rfl⟩
  | some status =>
    refine (meets_true _).bind fun info _ ↦ updateStatus_frame.bind fun status' hframe ↦ ?_
    exact ⟨h.updateFrame hlookup hframe, rfl⟩

/-! ## Computing the votes of a sensor -/

/-- No ceiling of any binding is negative. -/
def ThrottlingInfo.NonnegCeilings (info : ThrottlingInfo) : Prop :=
  ∀ bindings, info.Binds bindings → ∀ cdev binding, bindings.lookup cdev = some binding →
    ∀ severity, 0 ≤ binding.cdevCeiling severity

/-- A vote lies between zero and the ceiling, whatever the floor and the release step are. -/
theorem finalRequest_bounds {pid hardlimit release floor ceiling : ℤ} (hpid : 0 ≤ pid)
    (hceiling : 0 ≤ ceiling) :
    Meets (finalRequest pid hardlimit release floor ceiling)
      (fun request ↦ 0 ≤ request ∧ request ≤ ceiling)
      fun fault ↦ fault = .intOverflow ∧ release ≠ 0 := by
  unfold finalRequest
  dsimp only
  split
  · rename_i hrelease
    split
    · simp only [pure_bind, meets_pure]
      omega
    · refine Meets.bind (meets_checkedInt (P := fun released ↦
        released = max pid hardlimit - release) rfl ⟨rfl, hrelease⟩) fun released hreleased ↦ ?_
      simp only [pure_bind, meets_pure]
      omega
  · simp only [pure_bind, meets_pure]
    omega

theorem finalRequest_overflow {pid hardlimit release floor ceiling : ℤ} :
    Meets (finalRequest pid hardlimit release floor ceiling) (fun _ ↦ True)
      fun fault ↦ fault = .intOverflow ∧ release ≠ 0 := by
  unfold finalRequest
  dsimp only
  split
  · rename_i hrelease
    split
    · trivial
    · exact Meets.bind (meets_checkedInt (P := fun _ ↦ True) trivial ⟨rfl, hrelease⟩)
        fun _ _ ↦ trivial
  · trivial

/-- The exchange of a vote that is in the collection. -/
theorem updateCdevMaxRequestAndNotifyIfChange_of_mem {votes : CdevAllRequestMap} {cdev : String}
    {cur : ℤ} (new : ℤ) (h : cur ∈ ballotOf votes cdev) :
    ∃ requestSet : OrderedMultiset ℤ,
      updateCdevMaxRequestAndNotifyIfChange votes cdev cur new =
        .ok (votes.put cdev requestSet,
          decide (maxRequest (votes.put cdev requestSet) cdev ≠ maxRequest votes cdev)) ∧
      requestSet.toMultiset = new ::ₘ (ballotOf votes cdev).erase cur := by
  cases hlookup : votes.lookup cdev with
  | none =>
    rw [ballotOf, hlookup] at h
    exact absurd h (Multiset.notMem_zero cur)
  | some requestSet =>
    have hballot : ballotOf votes cdev = requestSet.toMultiset := by
      rw [ballotOf, hlookup]
      rfl
    rw [hballot] at h ⊢
    obtain ⟨curMax, hcurMax⟩ := Option.isSome_iff_exists.mp
      (OrderedMultiset.begin?_isSome (s := requestSet) fun hzero ↦ by
        rw [hzero] at h
        exact Multiset.notMem_zero cur h)
    obtain ⟨erased, herased, hmultiset⟩ := OrderedMultiset.eraseOne_of_mem h
    have hinserted : (erased.insert new).toMultiset = new ::ₘ requestSet.toMultiset.erase cur := by
      rw [OrderedMultiset.toMultiset_insert, hmultiset]
    obtain ⟨newMax, hnewMax⟩ := Option.isSome_iff_exists.mp
      (OrderedMultiset.begin?_isSome (s := erased.insert new) fun hzero ↦ by
        rw [hinserted] at hzero
        exact Multiset.cons_ne_zero hzero)
    refine ⟨erased.insert new, ?_, hinserted⟩
    have hold : maxRequest votes cdev = some curMax := by
      rw [maxRequest, hlookup]
      exact hcurMax
    have hnew : maxRequest (votes.put cdev (erased.insert new)) cdev = some newMax := by
      rw [maxRequest_put, if_pos rfl, hnewMax]
    unfold updateCdevMaxRequestAndNotifyIfChange
    rw [atKey_of_lookup hlookup, hold, hnew]
    simp only [hcurMax, herased, hnewMax, Except.bind, bind, pure, Except.pure, ne_eq,
      Option.some.injEq]

/-- The votes that are computed for a sensor: one for every device that had one, from the binding
in force. -/
structure ComputedVotes (info : ThrottlingInfo) (currSeverity : ThrottlingSeverity)
    (status : ThermalThrottlingStatus) (votes : UnorderedMap String ℤ) : Prop where
  keys : votes.keys = status.cdevStatusMap.keys
  cast : ∀ cdev vote, votes.lookup cdev = some vote → ∃ binding,
    (selectBindings info status.profile).lookup cdev = some binding ∧
      requestOf status binding currSeverity cdev = .ok vote

/-- Why the votes of a sensor cannot be computed. No fault concerns the collections. -/
inductive ComputeFault (sensorInfo : SensorInfo) (status : ThermalThrottlingStatus) :
    Fault → Prop where
  | noThrottling (h : sensorInfo.throttlingInfo = none) :
      ComputeFault sensorInfo status .nullPointer
  | unbound {info : ThrottlingInfo} {cdev : String} (hinfo : sensorInfo.throttlingInfo = some info)
      (hvote : cdev ∈ status.cdevStatusMap)
      (hmissing : cdev ∉ selectBindings info status.profile) :
      ComputeFault sensorInfo status .outOfRange
  | overflow {cdev : String} {releaseStep : ℤ}
      (hrelease : status.throttlingReleaseMap.lookup cdev = some releaseStep)
      (hstep : releaseStep ≠ 0) : ComputeFault sensorInfo status .intOverflow

theorem ComputeFault.ne_badIterator {sensorInfo : SensorInfo} {status : ThermalThrottlingStatus}
    {fault : Fault} (h : ComputeFault sensorInfo status fault) : fault ≠ .badIterator := by
  cases h <;> decide

/-- A vote overflows only beside a release step. -/
theorem requestOf_fault (sensorInfo : SensorInfo) (status : ThermalThrottlingStatus)
    (binding : BindedCdevInfo) (currSeverity : ThrottlingSeverity) (cdev : String) :
    Meets (requestOf status binding currSeverity cdev)
      (fun vote ↦ requestOf status binding currSeverity cdev = .ok vote)
      (ComputeFault sensorInfo status) := by
  have hrequest : Meets (requestOf status binding currSeverity cdev) (fun _ ↦ True) _ :=
    finalRequest_overflow
  cases h : requestOf status binding currSeverity cdev with
  | ok vote => rfl
  | error fault =>
    obtain ⟨rfl, hne⟩ := hrequest.of_error h
    cases hrelease : status.throttlingReleaseMap.lookup cdev with
    | none =>
      rw [hrelease] at hne
      exact absurd rfl hne
    | some releaseStep =>
      rw [hrelease] at hne
      exact ComputeFault.overflow hrelease hne

/-- What holds between the rounds of `computeCoolingDevicesRequest`: `others` are the votes of
the other sensors, the devices of `rest` are still to come, and the votes of the devices that are
done satisfy `Cast`. -/
structure RequestInvariant (others : String → Multiset ℤ) (votes : CdevAllRequestMap)
    (status : ThermalThrottlingStatus) (Cast : String → ℤ → Prop)
    (rest : List (Sigma fun _ : String ↦ ℤ)) (s : RequestState) : Prop where
  pending : ∀ pair ∈ rest, s.cdevStatusMap.lookup pair.1 = some pair.2 ∧
    s.cdevAllRequestMap.lookup pair.1 = votes.lookup pair.1 ∧
    pair.1 ∉ s.coolingDevicesToUpdate
  nodup : (rest.map Sigma.fst).Nodup
  mirrors : ∀ cdev, Mirrors (ballotOf s.cdevAllRequestMap cdev)
    (consVote (s.cdevStatusMap.lookup cdev) (others cdev)) 0
  counted : ∀ cdev ∈ s.cdevAllRequestMap,
    consVote (s.cdevStatusMap.lookup cdev) (others cdev) ≠ 0
  devices : ∀ cdev, cdev ∈ s.cdevAllRequestMap ↔ cdev ∈ votes
  keys : s.cdevStatusMap.keys = status.cdevStatusMap.keys
  cast : ∀ cdev vote, s.cdevStatusMap.lookup cdev = some vote → cdev ∉ rest.map Sigma.fst →
    Cast cdev vote
  reported : ∀ cdev, cdev ∈ s.coolingDevicesToUpdate ↔
    maxRequest s.cdevAllRequestMap cdev ≠ maxRequest votes cdev

section Compute

variable {others : String → Multiset ℤ} {votes : CdevAllRequestMap}
  {status : ThermalThrottlingStatus} {Cast : String → ℤ → Prop}
  {rest : List (Sigma fun _ : String ↦ ℤ)} {s : RequestState}
  {pair : Sigma fun _ : String ↦ ℤ}

/-- The vote of the next device stays as it is. -/
theorem RequestInvariant.skip (h : RequestInvariant others votes status Cast (pair :: rest) s)
    (hcast : Cast pair.1 pair.2) : RequestInvariant others votes status Cast rest s where
  pending pair' hpair' := h.pending pair' (List.mem_cons_of_mem _ hpair')
  nodup := (List.nodup_cons.mp h.nodup).2
  mirrors := h.mirrors
  counted := h.counted
  devices := h.devices
  keys := h.keys
  cast cdev vote hvote hdone := by
    by_cases hc : cdev = pair.1
    · subst hc
      rw [(h.pending pair List.mem_cons_self).1] at hvote
      obtain rfl := Option.some.inj hvote
      exact hcast
    · exact h.cast cdev vote hvote (by simp [hc, hdone])
  reported := h.reported

/-- The vote of the next device is in the collection of that device. -/
theorem RequestInvariant.mem_ballotOf
    (h : RequestInvariant others votes status Cast (pair :: rest) s) :
    pair.2 ∈ ballotOf s.cdevAllRequestMap pair.1 := by
  refine (h.mirrors pair.1).mem ?_
  rw [(h.pending pair List.mem_cons_self).1]
  exact Multiset.mem_cons_self _ _

/-- The vote of the next device is exchanged for another one. -/
theorem RequestInvariant.exchange
    (h : RequestInvariant others votes status Cast (pair :: rest) s)
    {request : ℤ} (hrequest : Cast pair.1 request) {requestSet : OrderedMultiset ℤ}
    (hset : requestSet.toMultiset =
      request ::ₘ (ballotOf s.cdevAllRequestMap pair.1).erase pair.2) :
    RequestInvariant others votes status Cast rest
      { cdevStatusMap := s.cdevStatusMap.assign pair.1 request
        cdevAllRequestMap := s.cdevAllRequestMap.put pair.1 requestSet
        coolingDevicesToUpdate :=
          if maxRequest (s.cdevAllRequestMap.put pair.1 requestSet) pair.1 ≠
              maxRequest s.cdevAllRequestMap pair.1
          then s.coolingDevicesToUpdate ++ [pair.1] else s.coolingDevicesToUpdate } := by
  obtain ⟨hvote, hvotes, hnotyet⟩ := h.pending pair List.mem_cons_self
  have hfresh : ∀ pair' ∈ rest, pair'.1 ≠ pair.1 := by
    intro pair' hpair' heq
    exact (List.nodup_cons.mp h.nodup).1 (heq ▸ List.mem_map_of_mem hpair')
  have hassigned : ∀ cdev, (s.cdevStatusMap.assign pair.1 request).lookup cdev =
      if cdev = pair.1 then some request else s.cdevStatusMap.lookup cdev := by
    intro cdev
    by_cases hc : cdev = pair.1
    · rw [if_pos hc, hc]
      exact lookup_assign_of_mem request (mem_of_lookup hvote)
    · rw [if_neg hc]
      exact lookup_assign_ne _ request hc
  have hold : maxRequest s.cdevAllRequestMap pair.1 = maxRequest votes pair.1 := by
    rw [maxRequest, maxRequest, hvotes]
  have hpresent : pair.1 ∈ s.cdevAllRequestMap := by
    by_contra hmissing
    have hmem := h.mem_ballotOf
    rw [ballotOf, AList.lookup_eq_none.mpr hmissing] at hmem
    exact Multiset.notMem_zero _ hmem
  refine ⟨fun pair' hpair' ↦ ?_, (List.nodup_cons.mp h.nodup).2, fun cdev ↦ ?_,
    fun cdev hmem ↦ ?_, fun cdev ↦ ?_, (keys_assign _ _ _).trans h.keys,
    fun cdev vote hlookup hdone ↦ ?_, fun cdev ↦ ?_⟩
  · have hne := hfresh pair' hpair'
    obtain ⟨hvote', hvotes', hnotyet'⟩ := h.pending pair' (List.mem_cons_of_mem _ hpair')
    refine ⟨?_, ?_, ?_⟩
    · rw [hassigned, if_neg hne, hvote']
    · rw [lookup_put, if_neg hne, hvotes']
    · dsimp only
      split
      · simp [hnotyet', hne]
      · exact hnotyet'
  · rw [ballotOf_put, hassigned]
    by_cases hc : cdev = pair.1
    · subst hc
      have hmirrors := h.mirrors pair.1
      rw [hvote] at hmirrors
      rw [if_pos rfl, if_pos rfl, hset]
      exact hmirrors.replace request
    · rw [if_neg hc, if_neg hc]
      exact h.mirrors cdev
  · rw [hassigned]
    by_cases hc : cdev = pair.1
    · rw [if_pos hc]
      exact Multiset.cons_ne_zero
    · rw [if_neg hc]
      exact h.counted cdev ((mem_put.mp hmem).resolve_left hc)
  · rw [mem_put, ← h.devices cdev]
    exact or_iff_right_of_imp fun hc ↦ hc ▸ hpresent
  · rw [hassigned] at hlookup
    split at hlookup
    · rename_i hc
      subst hc
      obtain rfl := Option.some.inj hlookup
      exact hrequest
    · rename_i hc
      exact h.cast cdev vote hlookup (by simp [hc, hdone])
  · dsimp only
    by_cases hc : cdev = pair.1
    · subst hc
      rw [hold]
      split <;> simp_all
    · have hother : maxRequest (s.cdevAllRequestMap.put pair.1 requestSet) cdev =
          maxRequest s.cdevAllRequestMap cdev := by
        rw [maxRequest_put, if_neg hc]
      rw [hother, ← h.reported cdev]
      split <;> simp [hc]

theorem computeRequest_invariant {sensorInfo : SensorInfo} {info : ThrottlingInfo}
    (hinfo : sensorInfo.throttlingInfo = some info) {currSeverity : ThrottlingSeverity}
    (hCast : ∀ cdev binding vote, (selectBindings info status.profile).lookup cdev = some binding →
      requestOf status binding currSeverity cdev = .ok vote → Cast cdev vote)
    (h : RequestInvariant others votes status Cast (pair :: rest) s) :
    Meets (computeRequest status (selectBindings info status.profile) currSeverity pair s)
      (RequestInvariant others votes status Cast rest) (ComputeFault sensorInfo status) := by
  have hvote : pair.1 ∈ status.cdevStatusMap := by
    rw [AList.mem_keys, ← h.keys]
    exact AList.mem_keys.mp (mem_of_lookup (h.pending pair List.mem_cons_self).1)
  unfold computeRequest
  refine Meets.bind (meets_atKey (P := fun binding ↦
      (selectBindings info status.profile).lookup pair.1 = some binding) (fun _ ↦ id)
    (ComputeFault.unbound hinfo hvote)) fun binding hbinding ↦ ?_
  refine Meets.bind (requestOf_fault sensorInfo status binding currSeverity pair.1)
    fun request hrequest ↦ ?_
  have hcast := hCast pair.1 binding request hbinding hrequest
  split
  · obtain ⟨requestSet, hreturns, hset⟩ :=
      updateCdevMaxRequestAndNotifyIfChange_of_mem request h.mem_ballotOf
    rw [hreturns]
    change RequestInvariant others votes status Cast rest _
    simp only [decide_eq_true_eq]
    exact h.exchange hcast hset
  · rename_i hsame
    rw [not_not] at hsame
    exact h.skip (hsame ▸ hcast)

end Compute

theorem computeCoolingDevicesRequest_unregistered {tt : ThermalThrottling} {sensorName : String}
    (hlookup : tt.thermalThrottlingStatusMap.lookup sensorName = none) (sensorInfo : SensorInfo)
    (currSeverity : ThrottlingSeverity) :
    computeCoolingDevicesRequest tt sensorName sensorInfo currSeverity = .ok (tt, []) := by
  unfold computeCoolingDevicesRequest
  rw [hlookup]

theorem computeCoolingDevicesRequest_of_unregistered {tt tt' : ThermalThrottling}
    {sensorName : String} (hlookup : tt.thermalThrottlingStatusMap.lookup sensorName = none)
    {sensorInfo : SensorInfo} {currSeverity : ThrottlingSeverity} {reported : List String}
    (hreturns : computeCoolingDevicesRequest tt sensorName sensorInfo currSeverity =
      .ok (tt', reported)) : tt' = tt ∧ reported = [] := by
  rw [computeCoolingDevicesRequest_unregistered hlookup, Except.ok.injEq, Prod.mk.injEq] at hreturns
  exact ⟨hreturns.1.symm, hreturns.2.symm⟩

/-- What a computation of the votes of a sensor leaves behind: only the votes of the sensor and the
collections are others, and exactly the devices whose maximum has changed are reported. -/
structure Computed (tt : ThermalThrottling) (sensorName : String) (info : ThrottlingInfo)
    (currSeverity : ThrottlingSeverity) (status : ThermalThrottlingStatus)
    (result : ThermalThrottling × List String) : Prop where
  mirrored : VotesMirrored result.1
  devices : ∀ cdev, cdev ∈ result.1.cdevAllRequestMap ↔ cdev ∈ tt.cdevAllRequestMap
  reported : ∀ cdev, cdev ∈ result.2 ↔
    maxRequest result.1.cdevAllRequestMap cdev ≠ maxRequest tt.cdevAllRequestMap cdev
  votes : ∃ votes, ComputedVotes info currSeverity status votes ∧
    result.1.thermalThrottlingStatusMap = tt.thermalThrottlingStatusMap.put sensorName
      { status with cdevStatusMap := votes }

theorem computeCoolingDevicesRequest_computed {tt : ThermalThrottling} (h : VotesMirrored tt)
    {sensorName : String} {status : ThermalThrottlingStatus}
    (hlookup : tt.thermalThrottlingStatusMap.lookup sensorName = some status)
    (sensorInfo : SensorInfo) (currSeverity : ThrottlingSeverity) :
    Meets (computeCoolingDevicesRequest tt sensorName sensorInfo currSeverity)
      (fun result ↦ ∃ info, sensorInfo.throttlingInfo = some info ∧
        Computed tt sensorName info currSeverity status result)
      (ComputeFault sensorInfo status) := by
  unfold computeCoolingDevicesRequest
  rw [hlookup]
  dsimp only
  have hsplit := fun cdev ↦ votesFor_of_lookup hlookup cdev
  refine Meets.bind (P := fun info ↦ sensorInfo.throttlingInfo = some info) ?_ fun info hinfo ↦ ?_
  · cases hinfo : sensorInfo.throttlingInfo with
    | none => exact ComputeFault.noThrottling hinfo
    | some info => rfl
  have hstart : RequestInvariant
      (fun cdev ↦ votesFor (tt.thermalThrottlingStatusMap.erase sensorName) cdev)
      tt.cdevAllRequestMap status
      (fun cdev vote ↦ ∃ binding, (selectBindings info status.profile).lookup cdev = some binding ∧
        requestOf status binding currSeverity cdev = .ok vote) status.cdevStatusMap.entries
      ⟨status.cdevStatusMap, tt.cdevAllRequestMap, []⟩ := by
    refine ⟨fun pair hpair ↦ ⟨lookup_of_mem_entries hpair, rfl, List.not_mem_nil⟩,
      status.cdevStatusMap.nodupKeys, fun cdev ↦ ?_, fun cdev hmem ↦ ?_, fun _ ↦ Iff.rfl, rfl,
      fun cdev vote hvote hdone ↦ ?_, fun cdev ↦ by simp⟩
    · rw [← hsplit]
      exact h.mirrors cdev
    · rw [← hsplit]
      exact h.counted cdev hmem
    · exact absurd (List.mem_map_of_mem (mem_entries_iff.mpr hvote)) hdone
  refine Meets.bind (meets_forEach_rest (J := RequestInvariant _ _ status _)
    (fun pair rest s hs ↦ computeRequest_invariant hinfo
      (fun cdev binding vote hbinding hvote ↦ ⟨binding, hbinding, hvote⟩) hs) hstart)
    fun s hs ↦ ?_
  have hvotes := fun cdev ↦ votesFor_put tt.thermalThrottlingStatusMap sensorName
    { status with cdevStatusMap := s.cdevStatusMap } cdev
  refine ⟨info, hinfo, ⟨fun cdev ↦ ?_, fun cdev hmem ↦ ?_⟩, hs.devices, hs.reported,
    s.cdevStatusMap, ⟨hs.keys, fun cdev vote hvote ↦ hs.cast cdev vote hvote (by simp)⟩, rfl⟩
  · rw [hvotes]
    exact hs.mirrors cdev
  · rw [hvotes]
    exact hs.counted cdev hmem

/-! ## Runs -/

/-- A property of the status of a sensor that no update and no computation of votes ends. -/
structure Lasting (setup : ThrottlingSetup) (Q : String → ThermalThrottlingStatus → Prop) :
    Prop where
  frame : ∀ sensor status status', UpdateFrame status status' → Q sensor status → Q sensor status'
  compute : ∀ sensor sensorInfo info currSeverity status votes,
    setup.sensorInfoMap.lookup sensor = some sensorInfo →
    sensorInfo.throttlingInfo = some info → ComputedVotes info currSeverity status votes →
    Q sensor status → Q sensor { status with cdevStatusMap := votes }

section Run

variable {setup : ThrottlingSetup} {start tt : ThermalThrottling} {reported : List String}

theorem throttlingStep_mirrored {tt' : ThermalThrottling} {out : List String}
    (h : VotesMirrored tt) (hstep : ThrottlingStep setup tt out tt') :
    VotesMirrored tt' ∧ (∀ cdev, cdev ∈ tt'.cdevAllRequestMap ↔ cdev ∈ tt.cdevAllRequestMap) ∧
      ∀ cdev ∉ out, maxRequest tt'.cdevAllRequestMap cdev = maxRequest tt.cdevAllRequestMap cdev := by
  cases hstep with
  | clear sensorName =>
    have hvotes : (clearThrottlingData tt sensorName).cdevAllRequestMap = tt.cdevAllRequestMap := by
      unfold clearThrottlingData
      split <;> rfl
    rw [hvotes]
    exact ⟨clearThrottlingData_mirrored h sensorName, fun _ ↦ Iff.rfl, fun _ _ ↦ rfl⟩
  | update input hcalls hreturns =>
    obtain ⟨hmirrored, hvotes⟩ := (thermalThrottlingUpdate_mirrored h input).of_ok hreturns
    rw [hvotes]
    exact ⟨hmirrored, fun _ ↦ Iff.rfl, fun _ _ ↦ rfl⟩
  | compute sensorName sensorInfo currSeverity hsensor hreturns =>
    cases hlookup : tt.thermalThrottlingStatusMap.lookup sensorName with
    | none =>
      obtain ⟨rfl, rfl⟩ := computeCoolingDevicesRequest_of_unregistered hlookup hreturns
      exact ⟨h, fun _ ↦ Iff.rfl, fun _ _ ↦ rfl⟩
    | some status =>
      obtain ⟨info, -, hcomputed⟩ := (computeCoolingDevicesRequest_computed h hlookup sensorInfo
        currSeverity).of_ok hreturns
      exact ⟨hcomputed.mirrored, hcomputed.devices, fun cdev hcdev ↦ not_not.mp fun hne ↦
        hcdev ((hcomputed.reported cdev).mpr hne)⟩

/-- Over a run the votes stay mirrored, and only reported devices have another maximum. -/
theorem throttlingRun_mirrored (hstart : VotesMirrored start)
    (hrun : ThrottlingRun setup start tt reported) :
    VotesMirrored tt ∧ (∀ cdev, cdev ∈ tt.cdevAllRequestMap ↔ cdev ∈ start.cdevAllRequestMap) ∧
      ∀ cdev ∉ reported,
        maxRequest tt.cdevAllRequestMap cdev = maxRequest start.cdevAllRequestMap cdev := by
  induction hrun with
  | start => exact ⟨hstart, fun _ ↦ Iff.rfl, fun _ _ ↦ rfl⟩
  | call _ step ih =>
    obtain ⟨hmirrored, hdevices, hsame⟩ := ih
    obtain ⟨hmirrored', hdevices', hsame'⟩ := throttlingStep_mirrored hmirrored step
    refine ⟨hmirrored', fun cdev ↦ (hdevices' cdev).trans (hdevices cdev), fun cdev hcdev ↦ ?_⟩
    rw [List.mem_append, not_or] at hcdev
    exact (hsame' cdev hcdev.2).trans (hsame cdev hcdev.1)

theorem throttlingStep_everyStatus {Q : String → ThermalThrottlingStatus → Prop}
    (hlasting : Lasting setup Q) (hmirrored : VotesMirrored tt) (h : EveryStatus Q tt)
    {tt' : ThermalThrottling} {out : List String} (hstep : ThrottlingStep setup tt out tt') :
    EveryStatus Q tt' := by
  cases hstep with
  | clear sensorName => exact clearThrottlingData_everyStatus hlasting.frame h sensorName
  | update input hcalls hreturns =>
    exact (thermalThrottlingUpdate_everyStatus hlasting.frame h input).of_ok hreturns
  | compute sensorName sensorInfo currSeverity hsensor hreturns =>
    cases hlookup : tt.thermalThrottlingStatusMap.lookup sensorName with
    | none =>
      obtain ⟨rfl, rfl⟩ := computeCoolingDevicesRequest_of_unregistered hlookup hreturns
      exact h
    | some status =>
      obtain ⟨info, hinfo, hcomputed⟩ := (computeCoolingDevicesRequest_computed hmirrored hlookup
        sensorInfo currSeverity).of_ok hreturns
      obtain ⟨votes, hvotes, hstatuses⟩ := hcomputed.votes
      have hput := h.put (hlasting.compute sensorName sensorInfo info currSeverity status votes
        hsensor hinfo hvotes (h sensorName status hlookup)) tt'.cdevAllRequestMap
      rw [← hstatuses] at hput
      exact hput

theorem throttlingRun_everyStatus {Q : String → ThermalThrottlingStatus → Prop}
    (hlasting : Lasting setup Q) (hmirrored : VotesMirrored start) (hstart : EveryStatus Q start)
    (hrun : ThrottlingRun setup start tt reported) : EveryStatus Q tt := by
  induction hrun with
  | start => exact hstart
  | call before step ih =>
    exact throttlingStep_everyStatus hlasting (throttlingRun_mirrored hmirrored before).1 ih step

theorem registered_mirrored (hregistered : setup.registered = some start) :
    VotesMirrored start ∧ EveryStatus (fun _ ↦ Unthrottled) start :=
  registerSensors_mirrored VotesMirrored.empty (EveryStatus.empty _) hregistered

end Run

end HardwareMediatek.Thermal
