import HardwareMediatek.Thermal.HelperFrames

/-!
# The interval until the next pass

A pass returns the shortest vote of the sensors. It is in time for a watched sensor when it is no longer
than the time left until the sensor is due again. Two kinds of sensors are missed: one that is due but
cannot be read has no vote, and one that loses its severity votes for its own delay, although a trigger
sensor still calls for the passive one.

As long as the readings do not begin or end the severity of a sensor that others depend on, all of this
is known before the pass: the interval is in time exactly when every missed sensor is covered by the
vote of another one.
-/

namespace HardwareMediatek.Thermal

open Relation UnorderedMap

/-! ## When the sensors are due -/

/-- Some trigger sensor of a virtual sensor has a severity. -/
def hasTriggered (sensorStatusMap : SensorStatusMap) (info : SensorInfo) : Bool :=
  match info.virtualSensorInfo with
  | some virtualInfo => virtualInfo.triggerSensors.any fun sensor ↦
      ((sensorStatusMap.lookup sensor).map SensorStatus.severity).getD .none ≠ .none
  | none => false

/-- The delay of a sensor under the severities of a state: the passive one while the sensor or one
of its trigger sensors has a severity. -/
def dueDelay (sensorStatusMap : SensorStatusMap) (info : SensorInfo) (status : SensorStatus) : ℤ :=
  if hasTriggered sensorStatusMap info then info.passiveDelay else severityDelay info status.severity

/-- The time left until the sensor is due. A sensor that was never updated is due at once. -/
def timeLeft (env : PassEnv) (sensorStatusMap : SensorStatusMap) (info : SensorInfo)
    (status : SensorStatus) : ℤ :=
  match status.lastUpdateTime with
  | none => 0
  | some time => dueDelay sensorStatusMap info status - elapsedMs env.now time

/-- A watched sensor, with its configuration and its status. -/
structure Watches (env : PassEnv) (sensorStatusMap : SensorStatusMap) (name : String)
    (info : SensorInfo) (status : SensorStatus) : Prop where
  info_eq : env.sensorInfoMap.lookup name = some info
  isWatch : info.isWatch = true
  status_eq : sensorStatusMap.lookup name = some status

/-- The interval is not longer than the time left for any watched sensor. -/
def PollsInTime (env : PassEnv) (s : PassState) : Prop :=
  ∀ name info status, Watches env s.sensorStatusMap name info status →
    s.minSleepMs ≤ timeLeft env s.sensorStatusMap info status

/-- Whether a sensor is to be updated in a pass that starts with these statuses. -/
def isDue (env : PassEnv) (sensorStatusMap : SensorStatusMap) (name : String) (info : SensorInfo)
    (status : SensorStatus) : Bool :=
  (updateCause env name info status (dueDelay sensorStatusMap info status)).forceUpdate ||
    status.overrideStatus.pendingUpdate

/-! ## The outcomes of the readings -/

/-- The sensor was given a severity, and a change is to be notified. -/
structure Rerated (severity : ThrottlingSeverity) (old new : SensorStatus) : Prop where
  severity_eq : new.severity = severity
  pendingNotification :
    new.pendingNotification = (old.pendingNotification || decide (old.severity ≠ severity))
  lastUpdateTime : new.lastUpdateTime = old.lastUpdateTime
  overrideStatus : new.overrideStatus = old.overrideStatus

/-- What the readings of a pass come to: the severity that each sensor gets, or none where the reading
fails or is under collecting. With a sensor its severity references are read. -/
structure PassEnv.ReadsAs (env : PassEnv) (reading : String → Option ThrottlingSeverity) : Prop where
  outcome : ∀ s name forceNoCache ret temp m,
    env.readTemperature s name forceNoCache = .ok (ret, temp, m) → (ret = .okay ↔ reading name ≠ none)
  keys : ∀ s name forceNoCache ret temp m,
    env.readTemperature s name forceNoCache = .ok (ret, temp, m) → m.keys = s.sensorStatusMap.keys
  rated : ∀ s name forceNoCache ret temp m,
    env.readTemperature s name forceNoCache = .ok (ret, temp, m) → ∀ other old new,
      s.sensorStatusMap.lookup other = some old → m.lookup other = some new →
      Rerated new.severity old new ∧ (new.severity = old.severity ∨
        reading other = some new.severity ∧ ReflTransGen (RefersTo env.sensorInfoMap) name other)
  own : ∀ s name forceNoCache ret temp m,
    env.readTemperature s name forceNoCache = .ok (ret, temp, m) → ∀ severity new,
      reading name = some severity → m.lookup name = some new → new.severity = severity

/-- A watched sensor depends on this one: it is a trigger sensor or a severity reference. -/
def IsShared (env : PassEnv) (name : String) : Prop :=
  ∃ reader info, env.sensorInfoMap.lookup reader = some info ∧ info.isWatch = true ∧
    (TriggeredBy env.sensorInfoMap reader name ∨ TransGen (RefersTo env.sensorInfoMap) reader name)

section Plan

variable (env : PassEnv) (m : SensorStatusMap) (reading : String → Option ThrottlingSeverity)

/-- The sensor is read in the pass: it is due, or one that is due refers to it. -/
def IsRead (name : String) : Prop :=
  ∃ reader info status, Watches env m reader info status ∧ isDue env m reader info status = true ∧
    ReflTransGen (RefersTo env.sensorInfoMap) reader name

/-- No reading begins or ends the severity of a sensor that others depend on. -/
def IsSteady : Prop :=
  ∀ name status severity, IsShared env name → IsRead env m name → m.lookup name = some status →
    reading name = some severity → (severity = .none ↔ status.severity = .none)

/-- The vote of a watched sensor: the time left when it is not due, its delay when it is read. After a
notification this is the delay of its own severity. -/
def plannedVote (name : String) (info : SensorInfo) (status : SensorStatus) : Option ℤ :=
  if isDue env m name info status then
    (reading name).map fun severity ↦
      if status.pendingNotification || decide (status.severity ≠ severity) then
        severityDelay info severity
      else dueDelay m info status
  else some (timeLeft env m info status)

/-- The sensor loses its severity with a notification, and the passive delay that a trigger sensor calls
for is forgotten. -/
structure ForgetsTrigger (name : String) (info : SensorInfo) (status : SensorStatus) : Prop where
  reading_eq : reading name = some .none
  isNotified : (status.pendingNotification || decide (status.severity ≠ .none)) = true
  isTriggered : hasTriggered m info = true
  isShorter : info.passiveDelay < info.pollingDelay

/-- A sensor that is due and either cannot be read or forgets its trigger sensors, with the time left. -/
def IsMissed (name : String) (info : SensorInfo) (status : SensorStatus) (left : ℤ) : Prop :=
  isDue env m name info status = true ∧
    (reading name = none ∧ left = timeLeft env m info status ∨
      ForgetsTrigger m reading name info status ∧ left = info.passiveDelay)

/-- Each sensor that is missed is covered by the vote of another one. -/
def CoversMissed : Prop :=
  ∀ name info status left, Watches env m name info status → IsMissed env m reading name info status left →
    left < maxMilliseconds → ∃ other ≠ name, ∃ otherInfo otherStatus vote,
      Watches env m other otherInfo otherStatus ∧
        plannedVote env m reading other otherInfo otherStatus = some vote ∧ vote ≤ left

end Plan

/-! ## The progress of a pass -/

section Rerated

variable {severity : ThrottlingSeverity} {status old middle new : SensorStatus}

theorem Rerated.refl (status : SensorStatus) : Rerated status.severity status status := by
  refine ⟨rfl, ?_, rfl, rfl⟩
  simp

/-- A second reading with the same outcome changes nothing more. -/
theorem Rerated.trans (h : Rerated middle.severity old middle) (h' : Rerated new.severity middle new)
    (hsame : middle.severity = old.severity ∨ new.severity = middle.severity) :
    Rerated new.severity old new := by
  refine ⟨rfl, ?_, h'.lastUpdateTime.trans h.lastUpdateTime, h'.overrideStatus.trans h.overrideStatus⟩
  rw [h'.pendingNotification, h.pendingNotification]
  rcases hsame with hsame | hsame
  · simp [hsame]
  · simp [hsame]

end Rerated

section Progress

variable {env : PassEnv} {m : SensorStatusMap} {reading : String → Option ThrottlingSeverity}

/-- The time of the last update after the sensor was visited. -/
def updatedAt (env : PassEnv) (m : SensorStatusMap) (reading : String → Option ThrottlingSeverity)
    (name : String) (info : SensorInfo) (status : SensorStatus) : Option ℤ :=
  if isDue env m name info status ∧ reading name ≠ none then some env.now else status.lastUpdateTime

/-- A sensor that was not visited may have been read for another one that refers to it. -/
structure Ahead (env : PassEnv) (m : SensorStatusMap) (reading : String → Option ThrottlingSeverity)
    (name : String) (old new : SensorStatus) : Prop where
  rerated : Rerated new.severity old new
  shared : new.severity = old.severity ∨
    reading name = some new.severity ∧ IsShared env name ∧ IsRead env m name

/-- What a visited sensor has become. -/
structure Behind (env : PassEnv) (m : SensorStatusMap) (reading : String → Option ThrottlingSeverity)
    (name : String) (old new : SensorStatus) : Prop where
  severity : new.severity = old.severity ∨ reading name = some new.severity ∧ IsRead env m name
  updated : ∀ info, Watches env m name info old →
    new.lastUpdateTime = updatedAt env m reading name info old ∧
      ∀ severity, isDue env m name info old = true → reading name = some severity →
        new.severity = severity

/-- The state of a pass before the rest of the sensors is visited. -/
structure Progress (env : PassEnv) (m : SensorStatusMap)
    (reading : String → Option ThrottlingSeverity) (rest : List String) (s : PassState) : Prop where
  keys : s.sensorStatusMap.keys = m.keys
  ahead : ∀ name ∈ rest, ∀ old new, m.lookup name = some old →
    s.sensorStatusMap.lookup name = some new → Ahead env m reading name old new
  behind : ∀ name ∉ rest, ∀ old new, m.lookup name = some old →
    s.sensorStatusMap.lookup name = some new → Behind env m reading name old new

theorem lookup_of_keys_eq {m m' : SensorStatusMap} (h : m'.keys = m.keys) {name : String}
    {status : SensorStatus} (hstatus : m.lookup name = some status) :
    ∃ status', m'.lookup name = some status' :=
  mem_iff_lookup.mp ((mem_iff_of_keys_eq h name).mpr (mem_of_lookup hstatus))

variable {rest : List String} {s s' : PassState} {name : String} {info : SensorInfo}
  {old status : SensorStatus}

theorem Progress.severity (hprogress : Progress env m reading rest s) (hold : m.lookup name = some old)
    (hstatus : s.sensorStatusMap.lookup name = some status) :
    status.severity = old.severity ∨ reading name = some status.severity ∧ IsRead env m name := by
  by_cases hrest : name ∈ rest
  · exact (hprogress.ahead name hrest old status hold hstatus).shared.imp_right
      fun h ↦ ⟨h.1, h.2.2⟩
  · exact (hprogress.behind name hrest old status hold hstatus).severity

/-- The severity of a sensor that others depend on does not begin or end. -/
theorem Progress.severity_of_isShared (hsteady : IsSteady env m reading)
    (hprogress : Progress env m reading rest s) (hshared : IsShared env name)
    (hold : m.lookup name = some old) (hstatus : s.sensorStatusMap.lookup name = some status) :
    status.severity = .none ↔ old.severity = .none := by
  rcases hprogress.severity hold hstatus with hsame | ⟨hreading, hread⟩
  · rw [hsame]
  · exact hsteady name old status.severity hshared hread hold hreading

theorem Progress.hasTriggered_eq (hsteady : IsSteady env m reading)
    (hprogress : Progress env m reading rest s) (hinfo : env.sensorInfoMap.lookup name = some info)
    (hwatch : info.isWatch = true) : hasTriggered s.sensorStatusMap info = hasTriggered m info := by
  unfold hasTriggered
  cases hvirtual : info.virtualSensorInfo with
  | none => rfl
  | some virtualInfo =>
    dsimp only
    apply Bool.eq_iff_iff.mpr
    rw [List.any_eq_true, List.any_eq_true]
    apply exists_congr
    intro trigger
    apply and_congr_right
    intro htrigger
    have hshared : IsShared env trigger := by
      refine ⟨name, info, hinfo, hwatch, Or.inl ?_⟩
      simpa [TriggeredBy, triggerSensorsOf, hinfo, hvirtual] using htrigger
    cases hold : m.lookup trigger with
    | none =>
      have hnone : s.sensorStatusMap.lookup trigger = none := by
        rw [AList.lookup_eq_none, mem_iff_of_keys_eq hprogress.keys, ← AList.lookup_eq_none]
        exact hold
      rw [hnone]
    | some old =>
      obtain ⟨status, hstatus⟩ := lookup_of_keys_eq hprogress.keys hold
      have hsame := hprogress.severity_of_isShared hsteady hshared hold hstatus
      rw [hstatus]
      simpa using not_congr hsame

theorem severityDelay_congr {severity severity' : ThrottlingSeverity}
    (h : severity = .none ↔ severity' = .none) :
    severityDelay info severity = severityDelay info severity' := by
  unfold severityDelay
  simp only [ne_eq, h]

/-- The delay of a sensor is that at the start of the pass, if the sensor has the severity that it had
then, or one that others depend on. -/
theorem Progress.dueDelay_eq (hsteady : IsSteady env m reading)
    (hprogress : Progress env m reading rest s) (hold : Watches env m name info old)
    (hseverity : status.severity = .none ↔ old.severity = .none) :
    dueDelay s.sensorStatusMap info status = dueDelay m info old := by
  unfold dueDelay
  rw [hprogress.hasTriggered_eq hsteady hold.info_eq hold.isWatch, severityDelay_congr hseverity]

theorem Progress.start (env : PassEnv) (reading : String → Option ThrottlingSeverity) (s : PassState) :
    Progress env s.sensorStatusMap reading s.sensorStatusMap.keys s := by
  refine ⟨rfl, ?_, ?_⟩
  · intro name _ old new hold hnew
    obtain rfl := Option.some.inj (hold.symm.trans hnew)
    exact ⟨.refl old, Or.inl rfl⟩
  · intro name hrest old new hold _
    exact absurd (AList.mem_keys.mp (mem_of_lookup hold)) hrest

theorem Ahead.refl (env : PassEnv) (m : SensorStatusMap) (reading : String → Option ThrottlingSeverity)
    (name : String) (status : SensorStatus) : Ahead env m reading name status status :=
  ⟨.refl status, Or.inl rfl⟩

/-- The progress with a visit: the other sensors may have been read with the visited one. -/
theorem Progress.visit (hprogress : Progress env m reading (name :: rest) s) (hnew : name ∉ rest)
    (hkeys : s'.sensorStatusMap.keys = s.sensorStatusMap.keys)
    (hothers : ∀ other ≠ name, ∀ before after, s.sensorStatusMap.lookup other = some before →
      s'.sensorStatusMap.lookup other = some after → Ahead env m reading other before after)
    (hown : ∀ old new, m.lookup name = some old → s'.sensorStatusMap.lookup name = some new →
      Behind env m reading name old new) :
    Progress env m reading rest s' := by
  refine ⟨hkeys.trans hprogress.keys, ?_, ?_⟩
  · intro other hrest old new hold hafter
    have hne : other ≠ name := fun h ↦ hnew (h ▸ hrest)
    obtain ⟨before, hbefore⟩ := lookup_of_keys_eq hprogress.keys hold
    have hahead := hprogress.ahead other (List.mem_cons_of_mem _ hrest) old before hold hbefore
    obtain ⟨hrerated, hsame | ⟨hreading, hread⟩⟩ := hothers other hne before new hbefore hafter
    · exact ⟨hahead.rerated.trans hrerated (Or.inr hsame), hsame ▸ hahead.shared⟩
    · refine ⟨hahead.rerated.trans hrerated ?_, Or.inr ⟨hreading, hread⟩⟩
      exact hahead.shared.imp_right fun h ↦ Option.some.inj (hreading.symm.trans h.1)
  · intro other hrest old new hold hafter
    by_cases hne : other = name
    · rw [hne] at hold hafter ⊢
      exact hown old new hold hafter
    · obtain ⟨before, hbefore⟩ := lookup_of_keys_eq hprogress.keys hold
      have hvisited : other ∉ name :: rest := List.not_mem_cons_of_ne_of_not_mem hne hrest
      have hbehind := hprogress.behind other hvisited old before hold hbefore
      obtain ⟨hrerated, hseverity⟩ := hothers other hne before new hbefore hafter
      refine ⟨?_, fun info' hwatches ↦ ?_⟩
      · rcases hseverity with hsame | ⟨hreading, -, hread⟩
        · rw [hsame]
          exact hbehind.severity
        · exact Or.inr ⟨hreading, hread⟩
      · obtain ⟨htime, hrated⟩ := hbehind.updated info' hwatches
        refine ⟨hrerated.lastUpdateTime.trans htime, fun severity hdue hreading ↦ ?_⟩
        rcases hseverity with hsame | ⟨hreading', -⟩
        · exact hsame.trans (hrated severity hdue hreading)
        · exact Option.some.inj (hreading'.symm.trans hreading)

end Progress

/-! ## The visit of a sensor -/

section Visit

variable {env : PassEnv} {m : SensorStatusMap} {reading : String → Option ThrottlingSeverity}
  {name : String} {info : SensorInfo} {s s' : PassState} {vote : Option ℤ}

theorem isTriggered_eq {sensorStatusMap : SensorStatusMap} {triggers : List String} {triggered : Bool}
    (h : isTriggered sensorStatusMap triggers = .ok triggered) :
    triggered = triggers.any fun sensor ↦
      ((sensorStatusMap.lookup sensor).map SensorStatus.severity).getD .none ≠ .none := by
  induction triggers with
  | nil => exact (Except.ok.inj h).symm
  | cons trigger rest ih =>
    obtain ⟨status, hstatus, hrest⟩ := bind_eq_ok.mp h
    rw [List.any_cons, atKey_eq_ok.mp hstatus]
    by_cases hseverity : status.severity = .none
    · rw [if_neg (not_not.mpr hseverity)] at hrest
      simpa [hseverity] using ih hrest
    · rw [if_pos hseverity] at hrest
      rw [← Except.ok.inj hrest]
      simp [hseverity]

theorem sleepDelay_eq {sensorStatusMap : SensorStatusMap} {status : SensorStatus} {sleepMs : ℤ}
    (h : sleepDelay sensorStatusMap info status = .ok sleepMs) :
    sleepMs = dueDelay sensorStatusMap info status := by
  unfold sleepDelay at h
  unfold dueDelay hasTriggered
  cases hvirtual : info.virtualSensorInfo with
  | none =>
    rw [hvirtual] at h
    exact (Except.ok.inj h).symm
  | some virtualInfo =>
    rw [hvirtual] at h
    obtain ⟨triggered, htriggered, hdelay⟩ := bind_eq_ok.mp h
    rw [← Except.ok.inj hdelay, isTriggered_eq htriggered]

theorem notifySensor_delay {temp : Temperature} {sleepMs delay : ℤ} {status : SensorStatus}
    (hnotify : notifySensor env name info temp sleepMs s = .ok (s', delay))
    (hstatus : s.sensorStatusMap.lookup name = some status) :
    delay = if status.pendingNotification then severityDelay info status.severity else sleepMs := by
  obtain ⟨status', hstatus', hrest⟩ := bind_eq_ok.mp hnotify
  obtain rfl := Option.some.inj (hstatus.symm.trans (atKey_eq_ok.mp hstatus'))
  split
  · rw [if_pos ‹_›] at hrest
    obtain ⟨_, _, hrest⟩ := bind_eq_ok.mp hrest
    exact (ok_pair hrest).2.symm
  · rw [if_neg ‹_›] at hrest
    exact (ok_pair hrest).2.symm

/-- What the update of a sensor comes to. -/
structure Updates (env : PassEnv) (reading : String → Option ThrottlingSeverity) (name : String)
    (info : SensorInfo) (sleepMs : ℤ) (s s' : PassState) (vote : Option ℤ) : Prop where
  keys : s'.sensorStatusMap.keys = s.sensorStatusMap.keys
  others : ∀ other ≠ name, ∀ before after, s.sensorStatusMap.lookup other = some before →
    s'.sensorStatusMap.lookup other = some after → Rerated after.severity before after ∧
      (after.severity = before.severity ∨ reading other = some after.severity ∧
        ReflTransGen (RefersTo env.sensorInfoMap) name other)
  failed : reading name = none → vote = none ∧ ∀ status new,
    s.sensorStatusMap.lookup name = some status → s'.sensorStatusMap.lookup name = some new →
      new.lastUpdateTime = status.lastUpdateTime ∧ new.severity = status.severity
  okay : ∀ severity, reading name = some severity → ∀ status new,
    s.sensorStatusMap.lookup name = some status → s'.sensorStatusMap.lookup name = some new →
      new.lastUpdateTime = some env.now ∧ new.severity = severity ∧
        vote = some (if status.pendingNotification || decide (status.severity ≠ severity) then
          severityDelay info severity else sleepMs)

theorem updateSensor_updates (hreads : env.ReadsAs reading) {cause : UpdateCause}
    {maxThrottling : Bool} {sleepMs : ℤ}
    (hupdate : updateSensor env name info cause maxThrottling sleepMs s = .ok (s', vote)) :
    Updates env reading name info sleepMs s s' vote := by
  obtain ⟨⟨ret, temp, read⟩, hread, hrest⟩ := bind_eq_ok.mp hupdate
  have houtcome := hreads.outcome s name cause.forceNoCache ret temp read hread
  have hkeys := hreads.keys s name cause.forceNoCache ret temp read hread
  have hrated := hreads.rated s name cause.forceNoCache ret temp read hread
  have hown := hreads.own s name cause.forceNoCache ret temp read hread
  have hunread (hret : ret ≠ .okay) (hfail : s' = { s with sensorStatusMap := read } ∧ vote = none) :
      Updates env reading name info sleepMs s s' vote := by
    have hnone : reading name = none := not_ne_iff.mp fun h ↦ hret (houtcome.mpr h)
    rw [hfail.1, hfail.2]
    refine ⟨hkeys, fun other _ ↦ hrated other, fun _ ↦ ⟨rfl, ?_⟩, ?_⟩
    · intro status new hstatus hnew
      obtain ⟨hrerated, hsame | ⟨hsome, _⟩⟩ := hrated name status new hstatus hnew
      · exact ⟨hrerated.lastUpdateTime, hsame⟩
      · exact absurd (hsome.symm.trans hnone) (Option.some_ne_none _)
    · intro severity hsome
      exact absurd (hsome.symm.trans hnone) (Option.some_ne_none _)
  cases ret with
  | error =>
    have hdone := ok_pair hrest
    exact hunread SensorReadStatus.noConfusion ⟨hdone.1.symm, hdone.2.symm⟩
  | underCollecting =>
    have hdone := ok_pair hrest
    exact hunread SensorReadStatus.noConfusion ⟨hdone.1.symm, hdone.2.symm⟩
  | okay =>
    obtain ⟨⟨told, delay⟩, hnotify, hrest⟩ := bind_eq_ok.mp hrest
    obtain ⟨throttled, hthrottle, hrest⟩ := bind_eq_ok.mp hrest
    obtain ⟨rfl, rfl⟩ := ok_pair hrest
    have hchanges := (notifySensor_changesAt hnotify).trans (throttleSensor_changesAt hthrottle)
    refine ⟨hchanges.keys.trans hkeys, ?_, ?_, ?_⟩
    · intro other hother before after hbefore hafter
      rw [hchanges.others other hother] at hafter
      exact hrated other before after hbefore hafter
    · intro hnone
      exact absurd hnone (houtcome.mp rfl)
    · intro severity hsome status new hstatus hnew
      obtain ⟨rated, hlookup⟩ := lookup_of_keys_eq hkeys hstatus
      have hseverity := hown severity rated hsome hlookup
      have hrerated := (hrated name status rated hstatus hlookup).1
      rw [hchanges.own, hlookup] at hnew
      rw [← Option.some.inj hnew, notifySensor_delay hnotify hlookup, hrerated.pendingNotification,
        hseverity]
      exact ⟨rfl, rfl, rfl⟩

/-- Whether a sensor is due depends on the time of its last update only. -/
theorem updateCause_congr {status status' : SensorStatus} (sleepMs : ℤ)
    (h : status.lastUpdateTime = status'.lastUpdateTime) :
    updateCause env name info status sleepMs = updateCause env name info status' sleepMs := by
  unfold updateCause
  rw [h]

theorem timeLeft_of_not_isDue {status : SensorStatus} (hdue : ¬ isDue env m name info status = true) :
    dueDelay m info status - (updateCause env name info status (dueDelay m info status)).timeElapsedMs =
      timeLeft env m info status := by
  unfold isDue updateCause at hdue
  unfold updateCause timeLeft
  cases htime : status.lastUpdateTime with
  | none =>
    rw [htime] at hdue
    exact absurd (Bool.true_or _) hdue
  | some time =>
    dsimp only
    split
    · unfold eventCause
      split
      · rfl
      · split <;> rfl
    · rfl

theorem Watches.info_unique {status status' : SensorStatus} {info' : SensorInfo}
    (h : Watches env m name info status) (h' : Watches env m name info' status') : info' = info :=
  Option.some.inj (h'.info_eq.symm.trans h.info_eq)

theorem Watches.status_unique {status status' : SensorStatus} {info' : SensorInfo}
    (h : Watches env m name info status) (h' : Watches env m name info' status') : status' = status :=
  Option.some.inj (h'.status_eq.symm.trans h.status_eq)

/-- The votes of a sensor in a pass, as planned at its start. -/
def VotesAsPlanned (env : PassEnv) (m : SensorStatusMap) (reading : String → Option ThrottlingSeverity)
    (name : String) (vote : Option ℤ) : Prop :=
  ∀ sleepMs, vote = some sleepMs ↔ ∃ info status, Watches env m name info status ∧
    plannedVote env m reading name info status = some sleepMs

theorem votesAsPlanned_of_watches {old : SensorStatus} (hold : Watches env m name info old)
    (hvote : vote = plannedVote env m reading name info old) :
    VotesAsPlanned env m reading name vote := by
  intro sleepMs
  rw [hvote]
  constructor
  · exact fun h ↦ ⟨info, old, hold, h⟩
  · rintro ⟨info', status', hwatches, h⟩
    rwa [hold.info_unique hwatches, hold.status_unique hwatches] at h

section Step

variable {rest : List String} {old status begun : SensorStatus}

/-- The sensor is due: its update gives the vote that was planned. -/
theorem Progress.update (hprogress : Progress env m reading (name :: rest) s) (hnew : name ∉ rest)
    (hold : Watches env m name info old) (hstatus : s.sensorStatusMap.lookup name = some status)
    (hdue : isDue env m name info old = true)
    (hupdates : Updates env reading name info (dueDelay m info old)
      { s with sensorStatusMap := s.sensorStatusMap.assign name begun } s' vote)
    (hbegun : begun.severity = status.severity ∧
      begun.pendingNotification = status.pendingNotification ∧
      begun.lastUpdateTime = status.lastUpdateTime) :
    Progress env m reading rest s' ∧ vote = plannedVote env m reading name info old := by
  have hahead := hprogress.ahead name List.mem_cons_self old status hold.status_eq hstatus
  have hown : (s.sensorStatusMap.assign name begun).lookup name = some begun :=
    lookup_assign_of_mem begun (mem_of_lookup hstatus)
  have hread {other : String} (hpath : ReflTransGen (RefersTo env.sensorInfoMap) name other) :
      IsRead env m other := ⟨name, info, old, hold, hdue, hpath⟩
  have hkeys : s'.sensorStatusMap.keys = s.sensorStatusMap.keys :=
    hupdates.keys.trans (keys_assign _ _ _)
  have hothers : ∀ other ≠ name, ∀ before after, s.sensorStatusMap.lookup other = some before →
      s'.sensorStatusMap.lookup other = some after → Ahead env m reading other before after := by
    intro other hne before after hbefore hafter
    rw [← lookup_assign_ne _ begun hne] at hbefore
    obtain ⟨hrerated, hsame | ⟨hreading, hpath⟩⟩ := hupdates.others other hne before after hbefore hafter
    · exact ⟨hrerated, Or.inl hsame⟩
    · have hshared : TransGen (RefersTo env.sensorInfoMap) name other :=
        (reflTransGen_iff_eq_or_transGen.mp hpath).resolve_left hne
      exact ⟨hrerated, Or.inr ⟨hreading, ⟨name, info, hold.info_eq, hold.isWatch, Or.inr hshared⟩,
        hread hpath⟩⟩
  obtain ⟨new, hnew'⟩ := lookup_of_keys_eq hupdates.keys hown
  unfold plannedVote
  rw [if_pos hdue]
  cases hreading : reading name with
  | none =>
    obtain ⟨hvote, hkept⟩ := hupdates.failed hreading
    refine ⟨hprogress.visit hnew hkeys hothers ?_, hvote⟩
    intro old' after hold' hafter
    obtain rfl := Option.some.inj (hold.status_eq.symm.trans hold')
    obtain ⟨htime, hseverity⟩ := hkept begun after hown hafter
    refine ⟨?_, fun info' _ ↦ ⟨?_, ?_⟩⟩
    · rw [hseverity, hbegun.1]
      exact hahead.shared.imp_right fun h ↦ ⟨h.1, h.2.2⟩
    · rw [htime, hbegun.2.2, hahead.rerated.lastUpdateTime, updatedAt, if_neg]
      exact fun h ↦ h.2 hreading
    · intro severity _ hsome
      exact absurd (hsome.symm.trans hreading) (Option.some_ne_none _)
  | some severity =>
    have hokay := hupdates.okay severity hreading begun
    refine ⟨hprogress.visit hnew hkeys hothers ?_, ?_⟩
    · intro old' after hold' hafter
      obtain rfl := Option.some.inj (hold.status_eq.symm.trans hold')
      obtain ⟨htime, hseverity, -⟩ := hokay after hown hafter
      refine ⟨Or.inr ⟨hseverity.symm ▸ hreading, hread .refl⟩, fun info' hwatches ↦ ⟨?_, ?_⟩⟩
      · rw [hold.info_unique hwatches, htime, updatedAt, if_pos]
        exact ⟨hdue, hreading ▸ Option.some_ne_none _⟩
      · intro severity' _ hsome
        exact hseverity.trans (Option.some.inj (hreading.symm.trans hsome))
    · obtain ⟨-, -, hvote⟩ := hokay new hown hnew'
      have hnotified : (begun.pendingNotification || decide (begun.severity ≠ severity)) =
          (old.pendingNotification || decide (old.severity ≠ severity)) := by
        rw [hbegun.1, hbegun.2.1, hahead.rerated.pendingNotification]
        rcases hahead.shared with hsame | ⟨hshared, -⟩
        · simp [hsame]
        · simp [Option.some.inj (hshared.symm.trans hreading)]
      rw [hvote, hnotified, Option.map_some]

/-- One round of the loop: the vote of the sensor is the one planned at the start of the pass. -/
theorem visitSensor_progress (hreads : env.ReadsAs reading) (hsteady : IsSteady env m reading)
    (hprogress : Progress env m reading (name :: rest) s) (hnew : name ∉ rest)
    (hvisit : visitSensor env name s = .ok (s', vote)) :
    Progress env m reading rest s' ∧ VotesAsPlanned env m reading name vote := by
  obtain ⟨info, hinfo, hvisit⟩ := bind_eq_ok.mp hvisit
  have hinfo := atKey_eq_ok.mp hinfo
  by_cases hwatch : info.isWatch = true
  · rw [if_pos hwatch] at hvisit
    obtain ⟨status, hstatus, hvisit⟩ := bind_eq_ok.mp hvisit
    obtain ⟨sleepMs, hsleep, hvisit⟩ := bind_eq_ok.mp hvisit
    have hstatus := atKey_eq_ok.mp hstatus
    obtain ⟨old, holdLookup⟩ := lookup_of_keys_eq hprogress.keys.symm hstatus
    have hold : Watches env m name info old := ⟨hinfo, hwatch, holdLookup⟩
    have hahead := hprogress.ahead name List.mem_cons_self old status holdLookup hstatus
    have hdelay : sleepMs = dueDelay m info old := by
      rw [sleepDelay_eq hsleep]
      apply hprogress.dueDelay_eq hsteady hold
      rcases hahead.shared with hsame | ⟨hreading, hshared, hread⟩
      · rw [hsame]
      · exact hsteady name old status.severity hshared hread holdLookup hreading
    have hcause : updateCause env name info status sleepMs =
        updateCause env name info old (dueDelay m info old) := by
      rw [hdelay]
      exact updateCause_congr _ hahead.rerated.lastUpdateTime
    dsimp only at hvisit
    rw [hcause, hahead.rerated.overrideStatus] at hvisit
    by_cases hdue : isDue env m name info old = true
    · rw [if_pos (show (_ || _) = true from hdue)] at hvisit
      have hupdates := updateSensor_updates hreads hvisit
      rw [hdelay] at hupdates
      have hdone := hprogress.update hnew hold hstatus hdue hupdates ⟨rfl, rfl, rfl⟩
      exact ⟨hdone.1, votesAsPlanned_of_watches hold hdone.2⟩
    · rw [if_neg (show ¬ (_ || _) = true from hdue)] at hvisit
      obtain ⟨rfl, rfl⟩ := ok_pair hvisit
      refine ⟨hprogress.visit hnew (keys_assign _ _ _) ?_ ?_, votesAsPlanned_of_watches hold ?_⟩
      · intro other hne before after hbefore hafter
        rw [lookup_assign_ne _ _ hne, hbefore] at hafter
        obtain rfl := Option.some.inj hafter
        exact .refl env m reading other before
      · intro old' after hold' hafter
        obtain rfl := Option.some.inj (holdLookup.symm.trans hold')
        rw [lookup_assign_of_mem _ (mem_of_lookup hstatus)] at hafter
        obtain rfl := Option.some.inj hafter
        refine ⟨hahead.shared.imp_right fun h ↦ ⟨h.1, h.2.2⟩, fun info' hwatches ↦ ?_⟩
        rw [hold.info_unique hwatches]
        refine ⟨?_, fun _ hdue' ↦ absurd hdue' hdue⟩
        rw [updatedAt, if_neg fun h ↦ hdue h.1]
        exact hahead.rerated.lastUpdateTime
      · rw [hdelay, plannedVote, if_neg hdue, timeLeft_of_not_isDue hdue]
  · rw [if_neg hwatch] at hvisit
    obtain ⟨rfl, rfl⟩ := ok_pair hvisit
    have hunwatched {info' : SensorInfo} {status : SensorStatus} :
        ¬ Watches env m name info' status := by
      intro h
      obtain rfl := Option.some.inj (hinfo.symm.trans h.info_eq)
      exact hwatch h.isWatch
    refine ⟨hprogress.visit hnew rfl ?_ ?_, ?_⟩
    · intro other _ before after hbefore hafter
      obtain rfl := Option.some.inj (hbefore.symm.trans hafter)
      exact .refl env m reading other before
    · intro old after hold hafter
      have hahead := hprogress.ahead name List.mem_cons_self old after hold hafter
      exact ⟨hahead.shared.imp_right fun h ↦ ⟨h.1, h.2.2⟩, fun _ h ↦ absurd h hunwatched⟩
    · intro sleepMs
      refine iff_of_false (fun h ↦ nomatch h) ?_
      rintro ⟨info', status, h, -⟩
      exact hunwatched h

end Step

end Visit

/-! ## The whole pass -/

section Unvoted

variable {env : PassEnv} {name : String} {info : SensorInfo} {s : PassState}

theorem notifySensor_minSleepMs (temp : Temperature) (sleepMs : ℤ) :
    Meets (notifySensor env name info temp sleepMs s) (fun r ↦ r.1.minSleepMs = s.minSleepMs)
      fun _ ↦ True := by
  unfold notifySensor
  apply (meets_true _).bind
  intro status _
  split
  · apply (meets_true _).bind
    exact fun _ _ ↦ rfl
  · rfl

theorem throttleSensor_minSleepMs (temp : Temperature) (timeElapsedMs : ℤ) (maxThrottling : Bool) :
    Meets (throttleSensor env name info temp timeElapsedMs maxThrottling s)
      (fun s' ↦ s'.minSleepMs = s.minSleepMs) fun _ ↦ True := by
  unfold throttleSensor
  apply (meets_true _).bind
  intro status _
  apply (meets_true _).bind
  intro throttling _
  apply (meets_true _).bind
  exact fun _ _ ↦ rfl

theorem updateSensor_minSleepMs (cause : UpdateCause) (maxThrottling : Bool) (sleepMs : ℤ) :
    Meets (updateSensor env name info cause maxThrottling sleepMs s)
      (fun r ↦ r.1.minSleepMs = s.minSleepMs) fun _ ↦ True := by
  unfold updateSensor
  apply (meets_true _).bind
  rintro ⟨ret, temp, sensorStatusMap⟩ _
  cases ret with
  | error => rfl
  | underCollecting => rfl
  | okay =>
    apply (notifySensor_minSleepMs temp sleepMs).bind
    intro r hr
    apply (throttleSensor_minSleepMs temp cause.timeElapsedMs maxThrottling).bind
    exact fun s' hs' ↦ hs'.trans hr

end Unvoted

section Votes

variable {env : PassEnv} {m : SensorStatusMap} {reading : String → Option ThrottlingSeverity}
  {s s' : PassState}

/-- Only the loop itself counts the votes. -/
theorem visitSensor_minSleepMs (env : PassEnv) (name : String) (s : PassState) :
    Meets (visitSensor env name s) (fun r ↦ r.1.minSleepMs = s.minSleepMs) fun _ ↦ True := by
  unfold visitSensor
  apply (meets_true _).bind
  intro info _
  split
  · unfold watchSensor
    apply (meets_true _).bind
    intro status _
    apply (meets_true _).bind
    intro sleepMs _
    dsimp only
    split
    · exact updateSensor_minSleepMs _ _ _
    · rfl
  · rfl

theorem castVote_minSleepMs (s : PassState) (vote : Option ℤ) (left : ℤ) :
    (castVote s vote).minSleepMs ≤ left ↔
      s.minSleepMs ≤ left ∨ ∃ sleepMs, vote = some sleepMs ∧ sleepMs ≤ left := by
  cases vote with
  | none => simp [castVote]
  | some sleepMs =>
    simp only [castVote, Option.some.injEq, exists_eq_left']
    split
    · dsimp only
      omega
    · omega

theorem Progress.castVote {rest : List String} (hprogress : Progress env m reading rest s)
    (vote : Option ℤ) : Progress env m reading rest (castVote s vote) := by
  have hsame := castVote_sensorStatusMap s vote
  exact ⟨by rw [hsame]; exact hprogress.keys, by rw [hsame]; exact hprogress.ahead,
    by rw [hsame]; exact hprogress.behind⟩

/-- The interval after the loop is the shortest of the planned votes and of the interval before. -/
theorem visitSensors_progress (hreads : env.ReadsAs reading) (hsteady : IsSteady env m reading)
    {names : List String} (hnodup : names.Nodup) (hprogress : Progress env m reading names s)
    (hvisits : visitSensors env names s = .ok s') :
    Progress env m reading [] s' ∧ ∀ left, s'.minSleepMs ≤ left ↔
      s.minSleepMs ≤ left ∨ ∃ name ∈ names, ∃ info status vote, Watches env m name info status ∧
        plannedVote env m reading name info status = some vote ∧ vote ≤ left := by
  induction names generalizing s with
  | nil =>
    obtain rfl := Except.ok.inj hvisits
    exact ⟨hprogress, by simp⟩
  | cons name rest ih =>
    obtain ⟨hnew, hrest⟩ := List.nodup_cons.mp hnodup
    unfold visitSensors at hvisits
    rw [forEach] at hvisits
    cases hvisit : visitSensor env name s with
    | error fault =>
      rw [hvisit] at hvisits
      cases hvisits
    | ok r =>
      obtain ⟨after, vote⟩ := r
      rw [hvisit] at hvisits
      obtain ⟨hafter, hplanned⟩ := visitSensor_progress hreads hsteady hprogress hnew hvisit
      obtain ⟨hfinal, hmin⟩ := ih hrest (hafter.castVote vote) hvisits
      refine ⟨hfinal, fun left ↦ ?_⟩
      have hsame : after.minSleepMs = s.minSleepMs :=
        (visitSensor_minSleepMs env name s).of_ok hvisit
      rw [hmin left, castVote_minSleepMs, hsame, or_assoc]
      apply or_congr_right
      rw [List.exists_mem_cons_iff]
      apply or_congr_left
      constructor
      · rintro ⟨sleepMs, hvote, hle⟩
        obtain ⟨info, status, hwatches, hplan⟩ := (hplanned sleepMs).mp hvote
        exact ⟨info, status, sleepMs, hwatches, hplan, hle⟩
      · rintro ⟨info, status, sleepMs, hwatches, hplan, hle⟩
        exact ⟨sleepMs, (hplanned sleepMs).mpr ⟨info, status, hwatches, hplan⟩, hle⟩

end Votes

section Left

variable {env : PassEnv} {m : SensorStatusMap} {reading : String → Option ThrottlingSeverity}
  {s : PassState} {name : String} {info : SensorInfo} {old new : SensorStatus}

/-- The time left after the pass, for a sensor with this status before. -/
def plannedLeft (env : PassEnv) (m : SensorStatusMap) (reading : String → Option ThrottlingSeverity)
    (name : String) (info : SensorInfo) (status : SensorStatus) : ℤ :=
  match isDue env m name info status, reading name with
  | true, some severity =>
    if hasTriggered m info then info.passiveDelay else severityDelay info severity
  | _, _ => timeLeft env m info status

theorem elapsedMs_self (now : ℤ) : elapsedMs now now = 0 := by
  rw [elapsedMs, sub_self, Int.zero_tdiv]

theorem Progress.timeLeft_eq (hsteady : IsSteady env m reading) (hprogress : Progress env m reading [] s)
    (hold : Watches env m name info old) (hnew : s.sensorStatusMap.lookup name = some new) :
    timeLeft env s.sensorStatusMap info new = plannedLeft env m reading name info old := by
  have hbehind := hprogress.behind name List.not_mem_nil old new hold.status_eq hnew
  obtain ⟨htime, hrated⟩ := hbehind.updated info hold
  have hkept (hunread : isDue env m name info old = true → reading name = none) :
      timeLeft env s.sensorStatusMap info new = timeLeft env m info old := by
    have hseverity : new.severity = .none ↔ old.severity = .none := by
      rcases hbehind.severity with hsame | ⟨hreading, hread⟩
      · rw [hsame]
      · have hdue : ¬ isDue env m name info old = true := fun hdue ↦
          Option.some_ne_none _ (hreading.symm.trans (hunread hdue))
        obtain ⟨reader, readerInfo, status, hwatches, hreader, hpath⟩ := id hread
        have hne : name ≠ reader := by
          rintro rfl
          rw [hold.info_unique hwatches, hold.status_unique hwatches] at hreader
          exact hdue hreader
        have hrefers := (reflTransGen_iff_eq_or_transGen.mp hpath).resolve_left hne
        have hshared : IsShared env name :=
          ⟨reader, readerInfo, hwatches.info_eq, hwatches.isWatch, Or.inr hrefers⟩
        exact hsteady name old new.severity hshared hread hold.status_eq hreading
    unfold timeLeft
    rw [htime, updatedAt, if_neg fun h ↦ h.2 (hunread h.1), hprogress.dueDelay_eq hsteady hold hseverity]
  unfold plannedLeft
  cases hdue : isDue env m name info old with
  | false => exact hkept fun h ↦ absurd (hdue.symm.trans h) Bool.false_ne_true
  | true =>
    cases hreading : reading name with
    | none => exact hkept fun _ ↦ hreading
    | some severity =>
      have hread : isDue env m name info old = true ∧ reading name ≠ none :=
        ⟨hdue, hreading ▸ Option.some_ne_none _⟩
      unfold timeLeft
      rw [htime, updatedAt, if_pos hread]
      dsimp only
      rw [elapsedMs_self, sub_zero, dueDelay, hrated severity hdue hreading,
        hprogress.hasTriggered_eq hsteady hold.info_eq hold.isWatch]

/-- A sensor that is missed has this time left, and does not cover it itself. -/
theorem IsMissed.plannedLeft {left : ℤ} (h : IsMissed env m reading name info old left) :
    plannedLeft env m reading name info old = left ∧
      ∀ vote, plannedVote env m reading name info old = some vote → left < vote := by
  obtain ⟨hdue, ⟨hreading, rfl⟩ | ⟨hforgets, rfl⟩⟩ := h
  · unfold Thermal.plannedLeft plannedVote
    rw [if_pos hdue, hreading, hdue]
    exact ⟨rfl, fun vote hvote ↦ nomatch hvote⟩
  · unfold Thermal.plannedLeft plannedVote
    rw [if_pos hdue, hforgets.reading_eq, hdue, Option.map_some, if_pos hforgets.isNotified]
    refine ⟨if_pos hforgets.isTriggered, fun vote hvote ↦ ?_⟩
    rw [← Option.some.inj hvote]
    exact hforgets.isShorter

/-- A sensor that is not missed votes for an interval that is in time for itself. -/
theorem exists_vote_of_not_isMissed
    (h : ∀ left, ¬ IsMissed env m reading name info old left) :
    ∃ vote, plannedVote env m reading name info old = some vote ∧
      vote ≤ plannedLeft env m reading name info old := by
  unfold plannedVote plannedLeft
  cases hdue : isDue env m name info old with
  | false => exact ⟨_, rfl, le_rfl⟩
  | true =>
    cases hreading : reading name with
    | none => exact absurd ⟨hdue, Or.inl ⟨hreading, rfl⟩⟩ (h _)
    | some severity =>
      refine ⟨_, rfl, ?_⟩
      dsimp only
      by_cases hnotified : (old.pendingNotification || decide (old.severity ≠ severity)) = true
      · rw [if_pos hnotified]
        by_cases htriggered : hasTriggered m info = true
        · rw [if_pos htriggered]
          by_cases hseverity : severity = .none
          · by_contra hlonger
            rw [hseverity] at hreading hnotified hlonger
            exact h _ ⟨hdue, Or.inr ⟨⟨hreading, hnotified, htriggered, not_le.mp hlonger⟩, rfl⟩⟩
          · rw [severityDelay, if_pos hseverity]
        · rw [if_neg htriggered]
      · rw [if_neg hnotified]
        have hsame : old.severity = severity := by
          simpa using (Bool.or_eq_false_iff.mp (Bool.eq_false_iff.mpr hnotified)).2
        rw [dueDelay, hsame]

end Left

/-- A pass without events in which a sensor is due that cannot be read. -/
def unreadableEnv : PassEnv where
  sensorInfoMap := (∅ : SensorInfoMap).insert "skin" { (default : SensorInfo) with isWatch := true }
  coolingDeviceInfoMap := ∅
  powerRailSwitchMap := ∅
  ueventSensorMap := ∅
  now := 400000000000
  readTemperature s name _ := .ok (.error, ⟨"", name, .nan, .none⟩, s.sensorStatusMap)
  refreshPowerStatus := id
  readTemperaturePredictions _ := []
  profileProperty _ := ""
  writeSucceeds _ := true

/-- The sensor was last updated at time zero. -/
def polledOnce : SensorStatusMap :=
  (∅ : SensorStatusMap).insert "skin" { (default : SensorStatus) with lastUpdateTime := some 0 }

/-- An event for two sensors. Only the second one can be read, and gets its first severity. -/
def eventEnv : PassEnv where
  sensorInfoMap := ((∅ : SensorInfoMap).insert "soc"
    { (default : SensorInfo) with isWatch := true }).insert "skin"
      { (default : SensorInfo) with isWatch := true }
  coolingDeviceInfoMap := ∅
  powerRailSwitchMap := ∅
  ueventSensorMap := (((∅ : UnorderedMap String ExactFloat).insert "soc" .nan).insert "skin" .nan)
  now := 400000000000
  readTemperature s name _ :=
    if name = "soc" then
      .ok (.okay, ⟨"", "soc", .fin 45, .light⟩, s.sensorStatusMap.mapValues fun name status ↦
        if name = "soc" then
          { status with
            severity := .light
            pendingNotification := status.pendingNotification || decide (status.severity ≠ .light) }
        else status)
    else .ok (.error, ⟨"", name, .nan, .none⟩, s.sensorStatusMap)
  refreshPowerStatus := id
  readTemperaturePredictions _ := []
  profileProperty _ := ""
  writeSucceeds _ := true

def eventReading (name : String) : Option ThrottlingSeverity :=
  if name = "soc" then some .light else none

/-- The sensors were last updated 250 s and 100 s before the event. -/
def polledTwice : SensorStatusMap :=
  ((∅ : SensorStatusMap).insert "soc"
    { (default : SensorStatus) with lastUpdateTime := some 150000000000 }).insert "skin"
      { (default : SensorStatus) with lastUpdateTime := some 300000000000 }

theorem eventEnv_readsAs : eventEnv.ReadsAs eventReading := by
  have hread : ∀ s name forceNoCache ret temp m,
      eventEnv.readTemperature s name forceNoCache = .ok (ret, temp, m) →
        (name = "soc" ∧ ret = .okay ∧ m = s.sensorStatusMap.mapValues fun name status ↦
          if name = "soc" then
            { status with
              severity := .light
              pendingNotification := status.pendingNotification || decide (status.severity ≠ .light) }
          else status) ∨ name ≠ "soc" ∧ ret = .error ∧ m = s.sensorStatusMap := by
    intro s name forceNoCache ret temp m h
    by_cases hname : name = "soc"
    · have h := Except.ok.inj ((if_pos hname).symm.trans h)
      exact Or.inl ⟨hname, (Prod.mk.inj h).1.symm, (Prod.mk.inj (Prod.mk.inj h).2).2.symm⟩
    · have h := Except.ok.inj ((if_neg hname).symm.trans h)
      exact Or.inr ⟨hname, (Prod.mk.inj h).1.symm, (Prod.mk.inj (Prod.mk.inj h).2).2.symm⟩
  refine ⟨?_, ?_, ?_, ?_⟩
  · intro s name forceNoCache ret temp m h
    rcases hread s name forceNoCache ret temp m h with ⟨rfl, rfl, rfl⟩ | ⟨hname, rfl, rfl⟩
    · simp [eventReading]
    · simp [eventReading, hname]
  · intro s name forceNoCache ret temp m h
    rcases hread s name forceNoCache ret temp m h with ⟨-, -, rfl⟩ | ⟨-, -, rfl⟩
    · exact keys_mapValues _ _
    · rfl
  · intro s name forceNoCache ret temp m h other old new hold hnew
    rcases hread s name forceNoCache ret temp m h with ⟨rfl, -, rfl⟩ | ⟨-, -, rfl⟩
    · rw [lookup_mapValues, hold, Option.map_some] at hnew
      rw [← Option.some.inj hnew]
      by_cases hother : other = "soc"
      · rw [if_pos hother, hother]
        exact ⟨⟨rfl, rfl, rfl, rfl⟩, Or.inr ⟨rfl, .refl⟩⟩
      · rw [if_neg hother]
        exact ⟨.refl old, Or.inl rfl⟩
    · rw [← Option.some.inj (hold.symm.trans hnew)]
      exact ⟨.refl old, Or.inl rfl⟩
  · intro s name forceNoCache ret temp m h severity new hreading hnew
    rcases hread s name forceNoCache ret temp m h with ⟨rfl, -, rfl⟩ | ⟨hname, -, -⟩
    · obtain ⟨old, -, hold⟩ := Option.map_eq_some_iff.mp ((lookup_mapValues _ _ _).symm.trans hnew)
      rw [← hold, ← Option.some.inj hreading]
      rfl
    · exact absurd hreading (by simp [eventReading, hname])

/-- The sensors of the event: watched ones that nothing depends on. -/
theorem eventEnv_lookup {name : String} {info : SensorInfo}
    (h : eventEnv.sensorInfoMap.lookup name = some info) :
    (name = "skin" ∨ name = "soc") ∧ info = { (default : SensorInfo) with isWatch := true } := by
  by_cases hskin : name = "skin"
  · subst hskin
    exact ⟨Or.inl rfl, (Option.some.inj h).symm⟩
  · by_cases hsoc : name = "soc"
    · subst hsoc
      exact ⟨Or.inr rfl, (Option.some.inj h).symm⟩
    · unfold eventEnv at h
      rw [AList.lookup_insert_ne hskin, AList.lookup_insert_ne hsoc] at h
      cases h

theorem eventEnv_not_isShared (name : String) : ¬ IsShared eventEnv name := by
  have hrefers (reader other : String) : ¬ RefersTo eventEnv.sensorInfoMap reader other := by
    unfold RefersTo severityReferencesOf
    cases hinfo : eventEnv.sensorInfoMap.lookup reader with
    | none => exact List.not_mem_nil
    | some info =>
      rw [(eventEnv_lookup hinfo).2]
      exact List.not_mem_nil
  rintro ⟨reader, info, hinfo, -, htriggered | hpath⟩
  · unfold TriggeredBy triggerSensorsOf at htriggered
    rw [hinfo, (eventEnv_lookup hinfo).2] at htriggered
    exact List.not_mem_nil htriggered
  · cases hpath with
    | single h => exact hrefers _ _ h
    | tail _ h => exact hrefers _ _ h

end HardwareMediatek.Thermal
