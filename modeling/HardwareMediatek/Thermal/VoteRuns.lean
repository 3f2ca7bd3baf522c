import HardwareMediatek.Thermal.CoolingDevices
import HardwareMediatek.Thermal.Votes

/-!
# Cooling devices follow the greatest vote

Over any run of calls the collections stay in step with the sensors, so the
aggregated request of a device is the greatest vote for it, and a device is
reported exactly when that maximum changes. A watcher pass writes what was
reported on the way. The state that was last attempted for a device is
therefore always its greatest vote. The state that was last written is the
same only if that attempt succeeded: a failed write is logged and not repeated
until the maximum changes again.
-/

namespace HardwareMediatek.Thermal

open Relation UnorderedMap

/-- No sensor has a negative ceiling. -/
def ThrottlingSetup.NonnegCeilings (setup : ThrottlingSetup) : Prop :=
  ∀ sensorName sensorInfo info, setup.sensorInfoMap.lookup sensorName = some sensorInfo →
    sensorInfo.throttlingInfo = some info → info.NonnegCeilings

/-! ## No request below zero -/

/-- No vote and no request of the PID algorithm is negative. -/
structure NonnegRequests (status : ThermalThrottlingStatus) : Prop where
  votes : ∀ cdev vote, status.cdevStatusMap.lookup cdev = some vote → 0 ≤ vote
  requests : ∀ cdev request, status.pidCdevRequestMap.lookup cdev = some request → 0 ≤ request

theorem Unthrottled.nonnegRequests {status : ThermalThrottlingStatus} (h : Unthrottled status) :
    NonnegRequests status :=
  ⟨fun cdev vote hvote ↦ (h.votes cdev vote hvote).ge,
    fun cdev request hrequest ↦ (h.requests cdev request hrequest).ge⟩

/-- A vote beside requests that are not negative lies between zero and its ceiling. -/
theorem requestOf_bounds {status : ThermalThrottlingStatus} {binding : BindedCdevInfo}
    {currSeverity : ThrottlingSeverity} {cdev : String} {vote : ℤ}
    (hrequests : ∀ cdev request, status.pidCdevRequestMap.lookup cdev = some request → 0 ≤ request)
    (hceiling : 0 ≤ binding.cdevCeiling currSeverity)
    (hvote : requestOf status binding currSeverity cdev = .ok vote) :
    0 ≤ vote ∧ vote ≤ binding.cdevCeiling currSeverity := by
  have hpid : 0 ≤ (status.pidCdevRequestMap.lookup cdev).getD 0 := by
    cases hlookup : status.pidCdevRequestMap.lookup cdev with
    | none => exact le_rfl
    | some request => exact hrequests cdev request hlookup
  exact (finalRequest_bounds hpid hceiling).of_ok hvote

theorem lasting_nonnegRequests {setup : ThrottlingSetup} (hceilings : setup.NonnegCeilings) :
    Lasting setup fun _ ↦ NonnegRequests where
  frame sensor status status' hframe h := by
    refine ⟨?_, hframe.requests h.requests⟩
    rw [hframe.votes]
    exact h.votes
  compute sensor sensorInfo info currSeverity status votes hsensor hinfo hvotes h := by
    refine ⟨fun cdev vote hvote ↦ ?_, h.requests⟩
    obtain ⟨binding, hbinding, hcast⟩ := hvotes.cast cdev vote hvote
    have hceiling := hceilings sensor sensorInfo info hsensor hinfo _
      (selectBindings_binds info status.profile) cdev binding hbinding currSeverity
    exact (requestOf_bounds h.requests hceiling hcast).1

theorem votesFor_nonneg {tt : ThermalThrottling} (h : EveryStatus (fun _ ↦ NonnegRequests) tt)
    (cdev : String) : ∀ vote ∈ votesFor tt.thermalThrottlingStatusMap cdev, 0 ≤ vote := by
  intro vote hvote
  obtain ⟨sensor, status, hlookup, hcast⟩ := mem_votesFor.mp hvote
  exact (h sensor status hlookup).votes cdev vote hcast

/-! ## Passes of the watcher -/

/-- The throttling state, and every write to a cooling device so far, the latest first. -/
structure HelperState where
  throttling : ThermalThrottling
  writes : List CdevWrite

/-- The latest attempt to write to a device. -/
def lastAttempt (writes : List CdevWrite) (cdev : String) : Option CdevWrite :=
  writes.find? fun write ↦ write.cdev = cdev

/-- The state that was last written to a device with success. -/
def lastWritten (writes : List CdevWrite) (cdev : String) : Option ℤ :=
  (writes.find? fun write ↦ write.cdev = cdev ∧ write.succeeded).map CdevWrite.state

/-- A pass: calls for any sensors in any order, and then the writes for what they reported. -/
inductive WatcherPass (setup : ThrottlingSetup) (s : HelperState) : HelperState → Prop where
  | pass {tt : ThermalThrottling} {reported : List String} {writes : List CdevWrite}
      (run : ThrottlingRun setup s.throttling tt reported) (outcome : ℕ → Bool)
      (hwrites : updateCoolingDevices setup.coolingDeviceInfoMap tt.cdevAllRequestMap outcome
        reported = .ok writes) :
      WatcherPass setup s ⟨tt, writes ++ s.writes⟩

section Pass

variable {setup : ThrottlingSetup}

/-- Every write is for a reported device and means its aggregated request, and every reported
device with a request is written. -/
theorem updateCoolingDevices_writes (coolingDeviceInfoMap : CdevInfoMap)
    {votes : CdevAllRequestMap} (outcome : ℕ → Bool) (updatedCdev : List String)
    (hvotes : ∀ cdev, getCdevMaxRequest votes cdev = .ok (maxRequest votes cdev)) :
    Meets (updateCoolingDevices coolingDeviceInfoMap votes outcome updatedCdev)
      (fun writes ↦
        (∀ write ∈ writes, write.cdev ∈ updatedCdev ∧
          maxRequest votes write.cdev = some write.state) ∧
        ∀ cdev ∈ updatedCdev, (maxRequest votes cdev).isSome → ∃ write ∈ writes, write.cdev = cdev)
      fun _ ↦ True := by
  unfold updateCoolingDevices
  refine (meets_forEach_rest (J := fun rest writes ↦ (∀ cdev ∈ rest, cdev ∈ updatedCdev) ∧
      (∀ write ∈ writes, write.cdev ∈ updatedCdev ∧
        maxRequest votes write.cdev = some write.state) ∧
      ∀ cdev ∈ updatedCdev, cdev ∉ rest → (maxRequest votes cdev).isSome →
        ∃ write ∈ writes, write.cdev = cdev) ?_ ?_).imp ?_
  · rintro cdev rest writes ⟨hrest, hwrites, hdone⟩
    unfold updateCoolingDevice
    refine (meets_true _).bind fun cdevInfo _ ↦ ?_
    rw [hvotes cdev]
    have hrest' : ∀ cdev' ∈ rest, cdev' ∈ updatedCdev :=
      fun cdev' hcdev' ↦ hrest cdev' (List.mem_cons_of_mem _ hcdev')
    cases hmax : maxRequest votes cdev with
    | none =>
      refine ⟨hrest', hwrites, fun cdev' hmem hnot hsome ↦ ?_⟩
      refine hdone cdev' hmem (fun hin ↦ ?_) hsome
      rcases List.mem_cons.mp hin with rfl | hlater
      · rw [hmax] at hsome
        cases hsome
      · exact hnot hlater
    | some state =>
      refine (meets_true (cdevRequest cdevInfo state)).bind fun request _ ↦ ?_
      refine ⟨hrest', fun write hwrite ↦ ?_, fun cdev' hmem hnot hsome ↦ ?_⟩
      · rcases List.mem_cons.mp hwrite with rfl | hold
        · exact ⟨hrest cdev List.mem_cons_self, hmax⟩
        · exact hwrites write hold
      · by_cases hc : cdev' = cdev
        · exact ⟨_, List.mem_cons_self, hc.symm⟩
        · obtain ⟨write, hwrite, hcdev⟩ := hdone cdev' hmem (fun hin ↦ by
            rcases List.mem_cons.mp hin with heq | hlater
            · exact hc heq
            · exact hnot hlater) hsome
          exact ⟨write, List.mem_cons_of_mem _ hwrite, hcdev⟩
  · exact ⟨fun _ h ↦ h, by simp, fun cdev hmem hnot ↦ absurd hmem hnot⟩
  · rintro writes ⟨-, hwrites, hdone⟩
    exact ⟨hwrites, fun cdev hmem ↦ hdone cdev hmem List.not_mem_nil⟩

/-- The votes are mirrored and not negative, and the last attempt for a device was its aggregated
request; a device without an attempt is not throttled. -/
structure FollowsVotes (s : HelperState) : Prop where
  mirrored : VotesMirrored s.throttling
  nonneg : EveryStatus (fun _ ↦ NonnegRequests) s.throttling
  attempted : ∀ cdev write, lastAttempt s.writes cdev = some write →
    maxRequest s.throttling.cdevAllRequestMap cdev = some write.state
  untouched : ∀ cdev, lastAttempt s.writes cdev = none →
    ∀ request, maxRequest s.throttling.cdevAllRequestMap cdev = some request → request = 0

theorem watcherPass_followsVotes (hceilings : setup.NonnegCeilings) {s s' : HelperState}
    (h : FollowsVotes s) (hpass : WatcherPass setup s s') : FollowsVotes s' := by
  cases hpass with
  | @pass tt reported writes run outcome hwrites =>
    obtain ⟨hmirrored, hdevices, hsame⟩ := throttlingRun_mirrored h.mirrored run
    have hnonneg := throttlingRun_everyStatus (lasting_nonnegRequests hceilings) h.mirrored h.nonneg
      run
    obtain ⟨hmeant, hcomplete⟩ := (updateCoolingDevices_writes setup.coolingDeviceInfoMap outcome
      reported hmirrored.getCdevMaxRequest_eq).of_ok hwrites
    have hnew : ∀ cdev write, lastAttempt writes cdev = some write →
        maxRequest tt.cdevAllRequestMap cdev = some write.state := by
      intro cdev write hfind
      have hcdev : write.cdev = cdev := by simpa using List.find?_some hfind
      rw [← hcdev]
      exact (hmeant write (List.mem_of_find?_eq_some hfind)).2
    -- without a new attempt, the device was not reported or has no collection
    have hold : ∀ cdev, lastAttempt writes cdev = none →
        maxRequest tt.cdevAllRequestMap cdev =
          maxRequest s.throttling.cdevAllRequestMap cdev := by
      intro cdev hfind
      by_cases hreported : cdev ∈ reported
      · by_cases hmem : cdev ∈ tt.cdevAllRequestMap
        · obtain ⟨write, hwrite, hcdev⟩ := hcomplete cdev hreported
            (hmirrored.maxRequest_isSome (hmirrored.counted cdev hmem))
          have hnone := List.find?_eq_none.mp hfind write hwrite
          simp [hcdev] at hnone
        · have hmem' := fun hin ↦ hmem ((hdevices cdev).mpr hin)
          rw [maxRequest, maxRequest, AList.lookup_eq_none.mpr hmem, AList.lookup_eq_none.mpr hmem']
      · exact hsame cdev hreported
    have hsplit : ∀ cdev, lastAttempt (writes ++ s.writes) cdev =
        (lastAttempt writes cdev).or (lastAttempt s.writes cdev) :=
      fun _ ↦ List.find?_append
    refine ⟨hmirrored, hnonneg, fun cdev write hfind ↦ ?_, fun cdev hfind request hrequest ↦ ?_⟩
    · rw [hsplit] at hfind
      cases hlast : lastAttempt writes cdev with
      | none =>
        rw [hlast, Option.none_or] at hfind
        rw [hold cdev hlast]
        exact h.attempted cdev write hfind
      | some write' =>
        rw [hlast, Option.some_or] at hfind
        obtain rfl := Option.some.inj hfind
        exact hnew cdev _ hlast
    · rw [hsplit, Option.or_eq_none_iff] at hfind
      rw [hold cdev hfind.1] at hrequest
      exact h.untouched cdev hfind.2 request hrequest

theorem watcherPasses_followVotes (hceilings : setup.NonnegCeilings) {s s' : HelperState}
    (h : FollowsVotes s) (hpasses : ReflTransGen (WatcherPass setup) s s') : FollowsVotes s' := by
  induction hpasses with
  | refl => exact h
  | tail _ hpass ih => exact watcherPass_followsVotes hceilings ih hpass

end Pass

theorem lastWritten_of_succeeded {writes : List CdevWrite} {cdev : String} {write : CdevWrite}
    (h : lastAttempt writes cdev = some write) (hsucceeded : write.succeeded) :
    lastWritten writes cdev = some write.state := by
  have hfind : writes.find? (fun w ↦ w.cdev = cdev ∧ w.succeeded) = some write := by
    induction writes with
    | nil => cases h
    | cons w rest ih =>
      unfold lastAttempt at h ih
      by_cases hc : w.cdev = cdev
      · rw [List.find?_cons_of_pos (by simpa using hc)] at h
        obtain rfl := Option.some.inj h
        exact List.find?_cons_of_pos (by simp [hc, hsucceeded])
      · rw [List.find?_cons_of_neg (by simpa using hc)] at h
        rw [List.find?_cons_of_neg (by simp [hc])]
        exact ih h
  rw [lastWritten, hfind]
  rfl

/-! ## The main result -/

/-- Whatever is called for the registered sensors, the collection of each device holds the votes
of the sensors and otherwise zeros; no vote is erased that is not there; the aggregated request is
the greatest vote, and a device is reported exactly when it changes. After any number of passes,
the state that was last attempted for a device is its greatest vote, so the state that was last
written is too if that attempt succeeded, and a device without an attempt has no vote but 0. -/
theorem devices_follow_votes {setup : ThrottlingSetup} {start : ThermalThrottling}
    (hceilings : setup.NonnegCeilings) (hregistered : setup.registered = some start) :
    (∀ tt reported, ThrottlingRun setup start tt reported →
      (∀ cdev,
        Mirrors (ballotOf tt.cdevAllRequestMap cdev)
          (votesFor tt.thermalThrottlingStatusMap cdev) 0 ∧
        (getCdevMaxRequest tt.cdevAllRequestMap cdev = .ok none ↔
          votesFor tt.thermalThrottlingStatusMap cdev = 0) ∧
        ∀ request, getCdevMaxRequest tt.cdevAllRequestMap cdev = .ok (some request) ↔
          request ∈ votesFor tt.thermalThrottlingStatusMap cdev ∧
            ∀ vote ∈ votesFor tt.thermalThrottlingStatusMap cdev, vote ≤ request) ∧
      ∀ sensorName sensorInfo currSeverity,
        setup.sensorInfoMap.lookup sensorName = some sensorInfo →
        computeCoolingDevicesRequest tt sensorName sensorInfo currSeverity ≠
          .error .badIterator ∧
        ∀ tt' updated,
          computeCoolingDevicesRequest tt sensorName sensorInfo currSeverity =
            .ok (tt', updated) →
          ∀ cdev, cdev ∈ updated ↔ getCdevMaxRequest tt'.cdevAllRequestMap cdev ≠
            getCdevMaxRequest tt.cdevAllRequestMap cdev) ∧
    ∀ s, ReflTransGen (WatcherPass setup) ⟨start, []⟩ s → ∀ cdev,
      (∀ write, lastAttempt s.writes cdev = some write →
        getCdevMaxRequest s.throttling.cdevAllRequestMap cdev = .ok (some write.state) ∧
        (write.succeeded → lastWritten s.writes cdev = some write.state)) ∧
      (lastAttempt s.writes cdev = none →
        ∀ vote ∈ votesFor s.throttling.thermalThrottlingStatusMap cdev, vote = 0) := by
  obtain ⟨hstart, hunthrottled⟩ := registered_mirrored hregistered
  have hnonneg : EveryStatus (fun _ ↦ NonnegRequests) start :=
    fun sensor status hlookup ↦ (hunthrottled sensor status hlookup).nonnegRequests
  constructor
  · intro tt reported hrun
    obtain ⟨hmirrored, -, -⟩ := throttlingRun_mirrored hstart hrun
    have hvotes := votesFor_nonneg
      (throttlingRun_everyStatus (lasting_nonnegRequests hceilings) hstart hnonneg hrun)
    refine ⟨fun cdev ↦ ⟨hmirrored.mirrors cdev, ?_, fun request ↦ ?_⟩, ?_⟩
    · rw [hmirrored.getCdevMaxRequest_eq, Except.ok.injEq]
      constructor
      · intro hnone
        by_contra hne
        have hsome := hmirrored.maxRequest_isSome hne
        rw [hnone] at hsome
        cases hsome
      · intro hempty
        refine Option.eq_none_iff_forall_ne_some.mpr fun request hrequest ↦ ?_
        have hmem := ((hmirrored.maxRequest_eq_some_iff (hvotes cdev)).mp hrequest).1
        rw [hempty] at hmem
        exact Multiset.notMem_zero request hmem
    · rw [hmirrored.getCdevMaxRequest_eq, Except.ok.injEq]
      exact hmirrored.maxRequest_eq_some_iff (hvotes cdev)
    · intro sensorName sensorInfo currSeverity hsensor
      cases hlookup : tt.thermalThrottlingStatusMap.lookup sensorName with
      | none =>
        have hreturns := computeCoolingDevicesRequest_unregistered hlookup sensorInfo currSeverity
        refine ⟨by rw [hreturns]; simp, fun tt' updated hreturns' cdev ↦ ?_⟩
        obtain ⟨rfl, rfl⟩ := computeCoolingDevicesRequest_of_unregistered hlookup hreturns'
        simp
      | some status =>
        have hcompute :=
          computeCoolingDevicesRequest_computed hmirrored hlookup sensorInfo currSeverity
        refine ⟨fun herror ↦ (hcompute.of_error herror).ne_badIterator rfl,
          fun tt' updated hreturns cdev ↦ ?_⟩
        obtain ⟨info, -, hcomputed⟩ := hcompute.of_ok hreturns
        rw [hcomputed.reported, hcomputed.mirrored.getCdevMaxRequest_eq,
          hmirrored.getCdevMaxRequest_eq, ne_eq, ne_eq, Except.ok.injEq]
  · intro s hpasses cdev
    have hfollows : FollowsVotes ⟨start, []⟩ := by
      refine ⟨hstart, hnonneg, fun cdev write hfind ↦ ?_, fun cdev _ request hrequest ↦ ?_⟩
      · cases hfind
      · obtain ⟨sensor, status, hlookup, hcast⟩ := mem_votesFor.mp
          ((hstart.maxRequest_eq_some_iff (votesFor_nonneg hnonneg cdev)).mp hrequest).1
        exact (hunthrottled sensor status hlookup).votes cdev request hcast
    have hs := watcherPasses_followVotes hceilings hfollows hpasses
    have hvotes := votesFor_nonneg hs.nonneg cdev
    refine ⟨fun write hwrite ↦ ⟨?_, fun hsucceeded ↦ ?_⟩, fun hnone vote hvote ↦ ?_⟩
    · rw [hs.mirrored.getCdevMaxRequest_eq, hs.attempted cdev write hwrite]
    · exact lastWritten_of_succeeded hwrite hsucceeded
    · have hne : votesFor s.throttling.thermalThrottlingStatusMap cdev ≠ 0 := by
        intro hempty
        rw [hempty] at hvote
        exact Multiset.notMem_zero vote hvote
      obtain ⟨request, hrequest⟩ := Option.isSome_iff_exists.mp (hs.mirrored.maxRequest_isSome hne)
      have hle := ((hs.mirrored.maxRequest_eq_some_iff hvotes).mp hrequest).2 vote hvote
      rw [hs.untouched cdev hnone request hrequest] at hle
      exact le_antisymm hle (hvotes vote hvote)

/-- A sensor with a hard limit for one device. -/
def limitedSensor : SensorInfo :=
  { (default : SensorInfo) with
    throttlingInfo := some { (default : ThrottlingInfo) with
      bindedCdevInfoMap := (∅ : BindedCdevInfoMap).insert "cpu" { (default : BindedCdevInfo) with
        limitInfo := fun severity ↦ if severity = .severe then 3 else 0 } } }

def limitedSetup : ThrottlingSetup where
  sensorInfoMap := (∅ : UnorderedMap String SensorInfo).insert "skin" limitedSensor
  coolingDeviceInfoMap := (∅ : CdevInfoMap).insert "cpu" { (default : CdevInfo) with maxState := 5 }

theorem limitedSensor_nonnegCeilings {info : ThrottlingInfo}
    (hinfo : limitedSensor.throttlingInfo = some info) : info.NonnegCeilings := by
  obtain rfl := Option.some.inj hinfo
  rintro bindings (rfl | ⟨profile, hprofile⟩) cdev binding hbinding severity
  · have hcdev : cdev = "cpu" := by
      by_contra hne
      rw [AList.lookup_insert_ne hne, AList.lookup_empty] at hbinding
      cases hbinding
    subst hcdev
    rw [AList.lookup_insert] at hbinding
    obtain rfl := Option.some.inj hbinding
    exact (by decide : (0 : ℤ) ≤ intMax)
  · cases hprofile

theorem eq_limitedSensor {sensorName : String} {sensorInfo : SensorInfo}
    (hsensor : ((∅ : UnorderedMap String SensorInfo).insert "skin" limitedSensor).lookup sensorName =
      some sensorInfo) : sensorInfo = limitedSensor :=
  (UnorderedMap.eq_of_lookup_insert_empty hsensor).2

theorem limitedSetup_nonnegCeilings : limitedSetup.NonnegCeilings := by
  intro sensorName sensorInfo info hsensor hinfo
  obtain rfl := eq_limitedSensor hsensor
  exact limitedSensor_nonnegCeilings hinfo

/-- An update of the sensor at the severity of its limit. -/
def severeInput : UpdateInput where
  temp := ⟨"", "skin", ExactFloat.fin 50, .severe⟩
  sensorInfo := limitedSensor
  currSeverity := .severe
  timeElapsedMs := 0
  powerStatusMap := ∅
  coolingDeviceInfoMap := limitedSetup.coolingDeviceInfoMap
  maxThrottling := false
  sensorPredictions := []
  profileProperty := ""
  round := binary32.round

/-- The calls of a pass for that sensor. -/
def severePass (tt : ThermalThrottling) : Checked (ThermalThrottling × List String) := do
  let tt ← thermalThrottlingUpdate tt severeInput
  computeCoolingDevicesRequest tt "skin" limitedSensor .severe

theorem severePass_run {tt tt' : ThermalThrottling} {reported : List String}
    (h : severePass tt = .ok (tt', reported)) : ThrottlingRun limitedSetup tt tt' reported := by
  obtain ⟨updated, hupdate, hcompute⟩ := bind_eq_ok.mp h
  have hsensor : limitedSetup.sensorInfoMap.lookup "skin" = some limitedSensor :=
    AList.lookup_insert _
  exact ThrottlingRun.call (ThrottlingRun.call ThrottlingRun.start
      (ThrottlingStep.update severeInput ⟨hsensor, rfl, rfl⟩ hupdate))
    (ThrottlingStep.compute "skin" limitedSensor .severe hsensor hcompute)

/-- What two passes at that severity report, and the request they end with. -/
def severeScenario : Option (List String × Checked (Option ℤ) × List String × Checked (Option ℤ)) :=
  limitedSetup.registered.bind fun start ↦
    match severePass start with
    | .error _ => none
    | .ok (tt₁, reported₁) =>
      match severePass tt₁ with
      | .error _ => none
      | .ok (tt₂, reported₂) =>
        some (reported₁, getCdevMaxRequest tt₁.cdevAllRequestMap "cpu", reported₂,
          getCdevMaxRequest tt₂.cdevAllRequestMap "cpu")

theorem exists_severePasses :
    ∃ start tt₁ tt₂, limitedSetup.registered = some start ∧
      severePass start = .ok (tt₁, ["cpu"]) ∧ severePass tt₁ = .ok (tt₂, []) ∧
      getCdevMaxRequest tt₁.cdevAllRequestMap "cpu" = .ok (some 3) ∧
      getCdevMaxRequest tt₂.cdevAllRequestMap "cpu" = .ok (some 3) := by
  have h : severeScenario = some (["cpu"], .ok (some 3), [], .ok (some 3)) := rfl
  obtain ⟨start, hstart, h⟩ := Option.bind_eq_some_iff.mp h
  split at h
  · cases h
  · rename_i tt₁ reported₁ hfirst
    split at h
    · cases h
    · rename_i tt₂ reported₂ hsecond
      obtain ⟨rfl, hmax₁, rfl, hmax₂⟩ : reported₁ = ["cpu"] ∧ _ ∧ reported₂ = [] ∧ _ := by
        simpa only [Option.some.injEq, Prod.mk.injEq] using h
      exact ⟨start, tt₁, tt₂, hstart, hfirst, hsecond, hmax₁, hmax₂⟩

/-- The write of the first pass fails and the second pass has nothing to write: all its writes
succeed, but the device was never written. -/
theorem failed_write_not_repeated :
    ∃ start s₁ s₂ writes, limitedSetup.NonnegCeilings ∧ limitedSetup.registered = some start ∧
      WatcherPass limitedSetup ⟨start, []⟩ s₁ ∧ WatcherPass limitedSetup s₁ s₂ ∧
      s₂.writes = writes ++ s₁.writes ∧ (∀ write ∈ writes, write.succeeded) ∧
      getCdevMaxRequest s₂.throttling.cdevAllRequestMap "cpu" = .ok (some 3) ∧
      lastWritten s₂.writes "cpu" ≠ some 3 := by
  obtain ⟨start, tt₁, tt₂, hstart, hfirst, hsecond, hmax₁, hmax₂⟩ := exists_severePasses
  have hwrites : updateCoolingDevices limitedSetup.coolingDeviceInfoMap tt₁.cdevAllRequestMap
      (fun _ ↦ false) ["cpu"] = .ok [⟨"cpu", 3, 3, false⟩] := by
    have hcpu : atKey limitedSetup.coolingDeviceInfoMap "cpu" =
        .ok { (default : CdevInfo) with maxState := 5 } := rfl
    simp only [updateCoolingDevices, forEach, updateCoolingDevice, hcpu, hmax₁, bind, Except.bind]
    rfl
  refine ⟨start, ⟨tt₁, [⟨"cpu", 3, 3, false⟩]⟩, ⟨tt₂, [⟨"cpu", 3, 3, false⟩]⟩, [],
    limitedSetup_nonnegCeilings, hstart, ?_, ?_, rfl, by simp, hmax₂, ?_⟩
  · exact WatcherPass.pass (severePass_run hfirst) (fun _ ↦ false) hwrites
  · have hnothing : updateCoolingDevices limitedSetup.coolingDeviceInfoMap tt₂.cdevAllRequestMap
        (fun _ ↦ true) [] = .ok [] := rfl
    exact WatcherPass.pass (severePass_run hsecond) (fun _ ↦ true) hnothing
  · exact (by decide : lastWritten [⟨"cpu", 3, 3, false⟩] "cpu" ≠ some 3)

/-- The sensor with a limit follows its votes. -/
theorem limitedSetup_devices_follow_votes :
    ∃ start, limitedSetup.registered = some start ∧
      ∀ s, ReflTransGen (WatcherPass limitedSetup) ⟨start, []⟩ s → ∀ cdev write,
        lastAttempt s.writes cdev = some write →
          getCdevMaxRequest s.throttling.cdevAllRequestMap cdev = .ok (some write.state) := by
  obtain ⟨start, -, -, hstart, -⟩ := exists_severePasses
  refine ⟨start, hstart, fun s hs cdev write hwrite ↦ ?_⟩
  exact (((devices_follow_votes limitedSetup_nonnegCeilings hstart).2 s hs cdev).1 write hwrite).1

end HardwareMediatek.Thermal
