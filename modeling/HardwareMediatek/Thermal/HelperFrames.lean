import HardwareMediatek.Thermal.HelperRun
import HardwareMediatek.Thermal.PairedReading

/-!
# What visits and commands leave alone

A visit to a sensor, and a command to emulate one, change the sensors that are connected with it: what
it reads, what it refers to, and what links it.
-/

namespace HardwareMediatek.Thermal

open Foundation Relation UnorderedMap

/-! ## The status of one sensor -/

/-- One sensor's status has changed, if it has one. -/
structure ChangesAt (name : String) (change : SensorStatus → SensorStatus) (m m' : SensorStatusMap) :
    Prop where
  keys : m'.keys = m.keys
  others : ∀ other, other ≠ name → m'.lookup other = m.lookup other
  own : m'.lookup name = (m.lookup name).map change

section ChangesAt

variable {name : String} {change change' : SensorStatus → SensorStatus}
  {m middle m' final final' : SensorStatusMap}

theorem ChangesAt.trans (h : ChangesAt name change m middle)
    (h' : ChangesAt name change' middle final) :
    ChangesAt name (fun status ↦ change' (change status)) m final := by
  apply ChangesAt.mk
  · rw [h'.keys, h.keys]
  · intro other hother
    rw [h'.others other hother, h.others other hother]
  · rw [h'.own, h.own, Option.map_map]
    rfl

theorem changesAt_assign {status : SensorStatus} (hstatus : m.lookup name = some status) :
    ChangesAt name change m (m.assign name (change status)) := by
  apply ChangesAt.mk
  · exact keys_assign _ _ _
  · exact fun other hother ↦ lookup_assign_ne _ _ hother
  · rw [lookup_assign_of_mem _ (mem_of_lookup hstatus), hstatus]
    rfl

theorem changesAt_refl {status : SensorStatus} (hstatus : m.lookup name = some status)
    (hsame : change status = status) : ChangesAt name change m m := by
  refine ⟨rfl, fun _ _ ↦ rfl, ?_⟩
  rw [hstatus, Option.map_some, hsame]

end ChangesAt

theorem notifySensor_changesAt {env : PassEnv} {name : String} {info : SensorInfo}
    {temp : Temperature} {sleepMs delay : ℤ} {s after : PassState}
    (hnotify : notifySensor env name info temp sleepMs s = .ok (after, delay)) :
    ChangesAt name (fun status ↦ { status with pendingNotification := false }) s.sensorStatusMap
      after.sensorStatusMap := by
  obtain ⟨status, hstatus⟩ := bind_eq_ok.mp hnotify
  have hlookup := atKey_eq_ok.mp hstatus.1
  have hrest := hstatus.2
  by_cases hpending : status.pendingNotification = true
  · rw [if_pos hpending] at hrest
    obtain ⟨powerFiles, hswitched⟩ := bind_eq_ok.mp hrest
    rw [← (ok_pair hswitched.2).1]
    exact changesAt_assign hlookup
  · rw [if_neg hpending] at hrest
    rw [← (ok_pair hrest).1]
    apply changesAt_refl hlookup
    rw [← Bool.eq_false_iff.mpr hpending]

theorem throttleSensor_changesAt {env : PassEnv} {name : String} {info : SensorInfo}
    {temp : Temperature} {timeElapsedMs : ℤ} {maxThrottling : Bool} {s after : PassState}
    (hthrottle : throttleSensor env name info temp timeElapsedMs maxThrottling s = .ok after) :
    ChangesAt name (fun status ↦ { status with lastUpdateTime := some env.now }) s.sensorStatusMap
      after.sensorStatusMap := by
  obtain ⟨status, hstatus⟩ := bind_eq_ok.mp hthrottle
  have hlookup := atKey_eq_ok.mp hstatus.1
  obtain ⟨updated, hupdated⟩ := bind_eq_ok.mp hstatus.2
  obtain ⟨computed, hcomputed⟩ := bind_eq_ok.mp hupdated.2
  rw [← Except.ok.inj hcomputed.2]
  exact changesAt_assign hlookup

/-! ## Connected sensors -/

def triggerSensorsOf (sensorInfoMap : SensorInfoMap) (name : String) : List String :=
  (((sensorInfoMap.lookup name).bind SensorInfo.virtualSensorInfo).map
    VirtualSensorInfo.triggerSensors).getD []

/-- The first sensor is read more often while the second one has a severity. -/
def TriggeredBy (sensorInfoMap : SensorInfoMap) (name trigger : String) : Prop :=
  trigger ∈ triggerSensorsOf sensorInfoMap name

def linkedSensorsOf (sensorInfoMap : SensorInfoMap) (name : String) : List String :=
  (((sensorInfoMap.lookup name).bind SensorInfo.virtualSensorInfo).map
    VirtualSensorInfo.linkedSensors).getD []

/-- The first sensor is computed from the second one, refers to it, is triggered by it, or is marked
when it is emulated. -/
def IsConnected (sensorInfoMap : SensorInfoMap) (name other : String) : Prop :=
  ReadsFrom sensorInfoMap name other ∨ RefersTo sensorInfoMap name other ∨
    TriggeredBy sensorInfoMap name other ∨ other ∈ linkedSensorsOf sensorInfoMap name

/-- A set of sensors that is not connected with the others. -/
def IsIsolated (sensorInfoMap : SensorInfoMap) (sensors : Set String) : Prop :=
  ∀ name other, IsConnected sensorInfoMap name other → (name ∈ sensors ↔ other ∈ sensors)

/-- Only sensors of the set have changed. -/
structure ChangesWithin (sensors : Set String) (m m' : SensorStatusMap) : Prop where
  keys : m'.keys = m.keys
  others : ∀ name, name ∉ sensors → m'.lookup name = m.lookup name

section Isolated

variable {sensorInfoMap : SensorInfoMap} {sensors : Set String} {m middle m' : SensorStatusMap}
  {name : String}

theorem ChangesWithin.refl (sensors : Set String) (m : SensorStatusMap) : ChangesWithin sensors m m :=
  ⟨rfl, fun _ _ ↦ rfl⟩

theorem ChangesWithin.trans (h : ChangesWithin sensors m middle)
    (h' : ChangesWithin sensors middle m') : ChangesWithin sensors m m' :=
  ⟨h'.keys.trans h.keys, fun name hname ↦ (h'.others name hname).trans (h.others name hname)⟩

theorem ChangesAt.within {change : SensorStatus → SensorStatus} (h : ChangesAt name change m m')
    (hname : name ∈ sensors) : ChangesWithin sensors m m' := by
  apply ChangesWithin.mk h.keys
  intro other hother
  apply h.others
  intro hsame
  exact hother (hsame ▸ hname)

theorem changesWithin_assign (hname : name ∈ sensors) (m : SensorStatusMap) (status : SensorStatus) :
    ChangesWithin sensors m (m.assign name status) := by
  apply ChangesWithin.mk (keys_assign _ _ _)
  intro other hother
  apply lookup_assign_ne
  intro hsame
  exact hother (hsame ▸ hname)

theorem IsIsolated.reaches (h : IsIsolated sensorInfoMap sensors) {Edge : String → String → Prop}
    (hedge : ∀ name other, Edge name other → IsConnected sensorInfoMap name other) {root : String}
    (hroot : root ∈ sensors) (hpath : ReflTransGen Edge root name) : name ∈ sensors := by
  induction hpath with
  | refl => exact hroot
  | tail _ hlast ih => exact (h _ _ (hedge _ _ hlast)).mp ih

end Isolated

/-! ## Readings and visits -/

section Visits

variable {ε σ : Type} {config : HelperConfig} {name : String}

/-- A visit keeps what each of its steps keeps: the begin of an update, the reading, the notification and
the throttling. -/
theorem visitSensorBy_preserves {env : PassEnv} {read : WatchRead σ} {I : PassState → σ → Prop}
    (hbegin : ∀ s helpers status, I s helpers → s.sensorStatusMap.lookup name = some status →
      I { s with
          sensorStatusMap := s.sensorStatusMap.assign name
            { status with overrideStatus := { status.overrideStatus with pendingUpdate := false } } }
        helpers)
    (hread : ∀ w v forceNoCache outcome, I w.pass w.helpers →
      read w name forceNoCache = .ok (v, outcome) → I v.pass v.helpers)
    (hnotify : ∀ s s' helpers info temp sleepMs sleepMs', I s helpers →
      notifySensor env name info temp sleepMs s = .ok (s', sleepMs') → I s' helpers)
    (hthrottle : ∀ s s' helpers info temp timeElapsedMs maxThrottling, I s helpers →
      throttleSensor env name info temp timeElapsedMs maxThrottling s = .ok s' → I s' helpers)
    {w v : WatchState σ} {vote : Option ℤ} (hstate : I w.pass w.helpers)
    (hvisit : visitSensorBy env read name w = .ok (v, vote)) : I v.pass v.helpers := by
  obtain ⟨info, hinfo⟩ := bind_eq_ok.mp hvisit
  have hrest := hinfo.2
  by_cases hwatch : info.isWatch = true
  · rw [if_pos hwatch] at hrest
    obtain ⟨status, hstatus⟩ := bind_eq_ok.mp hrest
    obtain ⟨sleepMs, hsleep⟩ := bind_eq_ok.mp hstatus.2
    have hown := atKey_eq_ok.mp (liftChecked_eq_ok.mp hstatus.1)
    have hbegun := hbegin _ _ _ hstate hown
    have hdue := hsleep.2
    dsimp only at hdue
    split at hdue
    · obtain ⟨result, hresult⟩ := bind_eq_ok.mp hdue
      have hafter : I result.1.pass result.1.helpers := by
        apply hread _ result.1 _ result.2 _ hresult.1
        exact hbegun
      have hfinish := hresult.2
      dsimp only at hfinish
      cases houtcome : result.2 with
      | okay temp =>
        rw [houtcome] at hfinish
        dsimp only at hfinish
        obtain ⟨notified, hnotified⟩ := bind_eq_ok.mp hfinish
        obtain ⟨throttled, hthrottled⟩ := bind_eq_ok.mp hnotified.2
        rw [← (ok_pair hthrottled.2).1]
        have htold := hnotify _ _ _ _ _ _ _ hafter (liftChecked_eq_ok.mp hnotified.1)
        exact hthrottle _ _ _ _ _ _ _ htold (liftChecked_eq_ok.mp hthrottled.1)
      | underCollecting =>
        rw [houtcome] at hfinish
        rw [← (ok_pair hfinish).1]
        exact hafter
      | error =>
        rw [houtcome] at hfinish
        rw [← (ok_pair hfinish).1]
        exact hafter
    · rw [← (ok_pair hdue).1]
      exact hbegun
  · rw [if_neg hwatch] at hrest
    rw [← (ok_pair hrest).1]
    exact hstate

/-- A visit keeps what the reading keeps and what a change of the sensor itself keeps. -/
theorem visitSensorBy_keeps {env : PassEnv} {read : WatchRead σ} {I : SensorStatusMap → σ → Prop}
    (hread : ∀ w v forceNoCache outcome, I w.pass.sensorStatusMap w.helpers →
      read w name forceNoCache = .ok (v, outcome) → I v.pass.sensorStatusMap v.helpers)
    (hchange : ∀ m m' helpers change,
      (∀ status, (change status).overrideStatus.emulTemp = status.overrideStatus.emulTemp) →
      I m helpers → ChangesAt name change m m' → I m' helpers)
    {w v : WatchState σ} {vote : Option ℤ} (hstate : I w.pass.sensorStatusMap w.helpers)
    (hvisit : visitSensorBy env read name w = .ok (v, vote)) :
    I v.pass.sensorStatusMap v.helpers := by
  let J : PassState → σ → Prop := fun s helpers ↦ I s.sensorStatusMap helpers
  apply visitSensorBy_preserves (I := J) _ hread _ _ hstate hvisit
  · intro s helpers status hstate hown
    let change : SensorStatus → SensorStatus := fun status ↦
      { status with overrideStatus := { status.overrideStatus with pendingUpdate := false } }
    have hchanges : ChangesAt name change s.sensorStatusMap
        (s.sensorStatusMap.assign name (change status)) := changesAt_assign hown
    exact hchange _ _ _ change (fun _ ↦ rfl) hstate hchanges
  · intro s s' helpers info temp sleepMs sleepMs' hstate hnotified
    apply hchange _ _ _ _ _ hstate (notifySensor_changesAt hnotified)
    exact fun _ ↦ rfl
  · intro s s' helpers info temp timeElapsedMs maxThrottling hstate hthrottled
    apply hchange _ _ _ _ _ hstate (throttleSensor_changesAt hthrottled)
    exact fun _ ↦ rfl

/-- A reading in a pass keeps what the reading of the temperature keeps. -/
theorem readInPass_keeps {reader : Reader ε σ} {reading : String → ReadEnv ε}
    {I : SensorStatusMap → σ → Prop} {w v : WatchState σ} {forceNoCache : Bool}
    {outcome : ReadOutcome Temperature}
    (hread : ∀ sensorStatusMap helpers final outcome, I sensorStatusMap helpers →
      config.readNow reader (reading name) w.pass.throttling w.pass.powerFiles sensorStatusMap helpers
        name forceNoCache = .ok (final, outcome) → I final.sensorStatusMap final.helpers)
    (hstate : I w.pass.sensorStatusMap w.helpers)
    (hpass : config.readInPass reader reading w name forceNoCache = .ok (v, outcome)) :
    I v.pass.sensorStatusMap v.helpers := by
  obtain ⟨result, hresult⟩ := bind_eq_ok.mp hpass
  have hafter := hread _ _ result.1 result.2 hstate hresult.1
  rw [← (ok_pair hresult.2).1]
  exact hafter

/-- Readings leave the overrides alone, and a visit those of the other sensors. -/
def KeepsOverrides (names : Set String) (m m' : SensorStatusMap) : Prop :=
  ∀ name ∈ names, (m'.lookup name).map SensorStatus.overrideStatus =
    (m.lookup name).map SensorStatus.overrideStatus

theorem KeepsOverrides.assign {names : Set String} {m m' : SensorStatusMap}
    {status status' : SensorStatus} (h : KeepsOverrides names m m')
    (hstatus : m'.lookup name = some status)
    (hsame : status'.overrideStatus = status.overrideStatus) :
    KeepsOverrides names m (m'.assign name status') := by
  intro other hother
  rw [← h other hother]
  by_cases hname : other = name
  · rw [hname, lookup_assign_of_mem _ (mem_of_lookup hstatus), hstatus, Option.map_some, Option.map_some,
      hsame]
  · rw [lookup_assign_ne _ _ hname]

end Visits

end HardwareMediatek.Thermal
