import HardwareMediatek.Foundation.EffectRuns
import HardwareMediatek.Thermal.Watcher

/-!
# Changes of a severity and their notifications

Reading a sensor and notifying its change are two critical sections. The watcher notifies the severity
that its own reading gave, and other threads read between the two.
-/

namespace HardwareMediatek.Thermal

open Foundation UnorderedMap

/-- The statuses of all sensors, and the severity that the watcher has read and not notified yet. -/
structure NotificationState where
  statuses : String → SensorStatus
  held : Option (String × ThrottlingSeverity)

def initialNotificationState : NotificationState where
  statuses := fun _ ↦ default
  held := none

def NotificationState.setStatus (state : NotificationState) (sensor : String)
    (status : SensorStatus) : NotificationState :=
  { state with statuses := Function.update state.statuses sensor status }

/-- A critical section. Any thread reads, the watcher too for a severity reference. -/
inductive NotificationStep where
  | read (sensor : String) (value : ExactFloat) (severityReference : ThrottlingSeverity)
  | watcherRead (sensor : String) (value : ExactFloat) (severityReference : ThrottlingSeverity)
  | notify
  | override (sensor : String) (overrideStatus : OverrideStatus)

/-- A sensor, and the severity that was put on the notification list for it. -/
abbrev Notification := String × ThrottlingSeverity

/-- The locked part of `readTemperature`. Only a watched sensor keeps the severity of a reading. -/
def lockedReadTemperature (infos : String → SensorInfo) (sensor : String) (value : ExactFloat)
    (severityReference : ThrottlingSeverity) (state : NotificationState) :
    NotificationState × ThrottlingSeverity :=
  if (infos sensor).isWatch then
    let updated := updateSeverity (infos sensor) value severityReference (state.statuses sensor)
    (state.setStatus sensor updated.1, updated.2)
  else (state, .none)

/-- The locked part of the watcher after its reading. -/
def notifyPending (sensor : String) (throttlingStatus : ThrottlingSeverity) (status : SensorStatus) :
    SensorStatus × List Notification :=
  if status.pendingNotification then
    ({ status with pendingNotification := false }, [(sensor, throttlingStatus)])
  else (status, [])

def notificationStep (infos : String → SensorInfo) (state : NotificationState) :
    NotificationStep → Option (NotificationState × List Notification)
  | .read sensor value severityReference =>
      some ((lockedReadTemperature infos sensor value severityReference state).1, [])
  | .watcherRead sensor value severityReference =>
      if state.held = none ∧ (infos sensor).isWatch then
        let reading := lockedReadTemperature infos sensor value severityReference state
        some ({ reading.1 with held := some (sensor, reading.2) }, [])
      else none
  | .notify =>
      match state.held with
      | none => none
      | some (sensor, throttlingStatus) =>
          let notified := notifyPending sensor throttlingStatus (state.statuses sensor)
          some ({ state.setStatus sensor notified.1 with held := none }, notified.2)
  | .override sensor overrideStatus =>
      some (state.setStatus sensor { state.statuses sensor with overrideStatus := overrideStatus }, [])

/-- What was last put on the list for a sensor. -/
def lastNotified (sensor : String) (notifications : List Notification) : ThrottlingSeverity :=
  (((notifications.filter fun notification ↦ notification.1 = sensor).getLast?).map Prod.snd).getD
    .none

/-- The severity is the one last notified, or a notification of it is still to come. -/
def Announced (status : SensorStatus) (notified : ThrottlingSeverity) : Prop :=
  status.severity = notified ∨ status.pendingNotification = true

/-- The whole pass notifies in this way. -/
theorem notifySensor_eq_notifyPending {env : PassEnv} {name : String} {info : SensorInfo}
    {temp : Temperature} {sleepMs delay : ℤ} {s after : PassState} {status : SensorStatus}
    (hstatus : s.sensorStatusMap.lookup name = some status)
    (hnotify : notifySensor env name info temp sleepMs s = .ok (after, delay)) :
    after.sensorStatusMap.lookup name =
        some (notifyPending name temp.throttlingStatus status).1 ∧
      after.temps = s.temps ++
        (notifyPending name temp.throttlingStatus status).2.map fun _ ↦ temp := by
  unfold notifySensor at hnotify
  rw [atKey_of_lookup hstatus] at hnotify
  change (if status.pendingNotification = true then _ else _) = _ at hnotify
  unfold notifyPending
  by_cases hpending : status.pendingNotification = true
  · rw [if_pos hpending] at hnotify ⊢
    obtain ⟨powerFiles, hswitched⟩ := bind_eq_ok.mp hnotify
    have hafter := ok_pair hswitched.2
    rw [← hafter.1]
    exact ⟨lookup_assign_of_mem _ (mem_of_lookup hstatus), rfl⟩
  · rw [if_neg hpending] at hnotify ⊢
    have hafter := ok_pair hnotify
    rw [← hafter.1]
    exact ⟨hstatus, (List.append_nil _).symm⟩

section Steps

variable {infos : String → SensorInfo} {state : NotificationState} {notifications : List Notification}

theorem lastNotified_concat (sensor : String) (notifications : List Notification)
    (notification : Notification) :
    lastNotified sensor (notifications ++ [notification]) =
      if notification.1 = sensor then notification.2 else lastNotified sensor notifications := by
  unfold lastNotified
  rw [List.filter_append, List.filter_singleton]
  by_cases hsensor : notification.1 = sensor
  · rw [if_pos hsensor, decide_eq_true hsensor, cond_true, List.getLast?_concat]
    rfl
  · rw [if_neg hsensor, decide_eq_false hsensor, cond_false, List.append_nil]

/-- A reading that changes the severity asks for a notification. -/
theorem announced_updateSeverity {status : SensorStatus} {notified : ThrottlingSeverity}
    (hannounced : Announced status notified) (info : SensorInfo) (value : ExactFloat)
    (severityReference : ThrottlingSeverity) :
    Announced (updateSeverity info value severityReference status).1 notified := by
  unfold Announced updateSeverity
  dsimp only
  generalize throttlingStatusOf _ severityReference status.overrideStatus = throttlingStatus
  rw [Bool.or_eq_true, decide_eq_true_eq]
  by_cases hsame : status.severity = throttlingStatus
  · rcases hannounced with hseverity | hpending
    · exact Or.inl (hsame.symm.trans hseverity)
    · exact Or.inr (Or.inl hpending)
  · exact Or.inr (Or.inr hsame)

/-- Every change is announced. -/
def AllAnnounced (state : NotificationState) (notifications : List Notification) : Prop :=
  ∀ sensor, Announced (state.statuses sensor) (lastNotified sensor notifications)

theorem allAnnounced_setStatus (hall : AllAnnounced state notifications) {sensor : String}
    {status : SensorStatus} (hannounced : Announced status (lastNotified sensor notifications)) :
    AllAnnounced (state.setStatus sensor status) notifications := by
  intro other
  unfold NotificationState.setStatus
  dsimp only
  by_cases hother : other = sensor
  · rw [hother, Function.update_self]
    exact hannounced
  · rw [Function.update_of_ne hother]
    exact hall other

theorem allAnnounced_read (hall : AllAnnounced state notifications) (sensor : String)
    (value : ExactFloat) (severityReference : ThrottlingSeverity) :
    AllAnnounced (lockedReadTemperature infos sensor value severityReference state).1 notifications := by
  unfold lockedReadTemperature
  by_cases hwatch : (infos sensor).isWatch = true
  · rw [if_pos hwatch]
    apply allAnnounced_setStatus hall
    exact announced_updateSeverity (hall sensor) (infos sensor) value severityReference
  · rw [if_neg hwatch]
    exact hall

/-- What the watcher is about to notify is the severity of the sensor, if it notifies at all. -/
def HoldsSeverity (state : NotificationState) : Prop :=
  ∀ sensor throttlingStatus, state.held = some (sensor, throttlingStatus) →
    (state.statuses sensor).pendingNotification = true →
      (state.statuses sensor).severity = throttlingStatus

theorem allAnnounced_notify {sensor : String} {throttlingStatus : ThrottlingSeverity}
    (hall : AllAnnounced state notifications)
    (hsame : (state.statuses sensor).pendingNotification = true →
      (state.statuses sensor).severity = throttlingStatus) :
    AllAnnounced
      (state.setStatus sensor (notifyPending sensor throttlingStatus (state.statuses sensor)).1)
      (notifications ++ (notifyPending sensor throttlingStatus (state.statuses sensor)).2) := by
  unfold notifyPending
  by_cases hpending : (state.statuses sensor).pendingNotification = true
  · rw [if_pos hpending]
    intro other
    rw [lastNotified_concat]
    unfold NotificationState.setStatus
    dsimp only
    by_cases hother : other = sensor
    · rw [hother, Function.update_self, if_pos rfl]
      exact Or.inl (hsame hpending)
    · rw [Function.update_of_ne hother, if_neg fun hsensor ↦ hother hsensor.symm]
      exact hall other
  · rw [if_neg hpending, List.append_nil]
    exact allAnnounced_setStatus hall (hall sensor)

theorem allAnnounced_step {step : NotificationStep} {final : NotificationState}
    {new : List Notification} (hall : AllAnnounced state notifications)
    (hholds : step = .notify → HoldsSeverity state)
    (hstep : notificationStep infos state step = some (final, new)) :
    AllAnnounced final (notifications ++ new) := by
  unfold notificationStep at hstep
  cases step with
  | read sensor value severityReference =>
    have hfinal := Prod.mk.inj (Option.some.inj hstep)
    rw [← hfinal.1, ← hfinal.2, List.append_nil]
    exact allAnnounced_read hall sensor value severityReference
  | watcherRead sensor value severityReference =>
    dsimp only at hstep
    split at hstep
    · have hfinal := Prod.mk.inj (Option.some.inj hstep)
      rw [← hfinal.1, ← hfinal.2, List.append_nil]
      exact allAnnounced_read hall sensor value severityReference
    · cases hstep
  | notify =>
    cases hheld : state.held with
    | none =>
      rw [hheld] at hstep
      cases hstep
    | some held =>
      rw [hheld] at hstep
      have hfinal := Prod.mk.inj (Option.some.inj hstep)
      rw [← hfinal.1, ← hfinal.2]
      exact allAnnounced_notify hall (hholds rfl held.1 held.2 hheld)
  | override sensor overrideStatus =>
    have hfinal := Prod.mk.inj (Option.some.inj hstep)
    rw [← hfinal.1, ← hfinal.2, List.append_nil]
    exact allAnnounced_setStatus hall (hall sensor)

end Steps

/-! ## Runs -/

/-- Any interleaving of the critical sections, from the statuses of the constructor on. -/
def notificationRun (infos : String → SensorInfo) (steps : List NotificationStep) :
    Option (NotificationState × List Notification) :=
  runSteps (notificationStep infos) initialNotificationState steps

/-- In every state that the steps reach and in which the watcher has notified what it read, each
severity is the one last notified, or is still to be notified. -/
def NoChangeLost (infos : String → SensorInfo) (steps : List NotificationStep) : Prop :=
  ∀ before after, steps = before ++ after → ∀ state notifications,
    notificationRun infos before = some (state, notifications) → state.held = none →
      AllAnnounced state notifications

/-- Whenever the watcher is about to notify a change, the severity still is the one it read. -/
def NotifiesSeverities (infos : String → SensorInfo) (steps : List NotificationStep) : Prop :=
  ∀ before after, steps = before ++ .notify :: after → ∀ state notifications,
    notificationRun infos before = some (state, notifications) → HoldsSeverity state

theorem allAnnounced_run {infos : String → SensorInfo} {steps : List NotificationStep}
    (hnotifies : NotifiesSeverities infos steps) {before after : List NotificationStep}
    (hsteps : steps = before ++ after) {state : NotificationState}
    {notifications : List Notification}
    (hrun : notificationRun infos before = some (state, notifications)) :
    AllAnnounced state notifications := by
  induction before using List.reverseRecOn generalizing after state notifications with
  | nil =>
    have hinit := Prod.mk.inj (Option.some.inj hrun)
    rw [← hinit.1, ← hinit.2]
    intro sensor
    exact Or.inl rfl
  | append_singleton before step ih =>
    rw [List.append_assoc] at hsteps
    obtain ⟨middle, earlier, new, hnew⟩ := runSteps_concat _ hrun
    rw [hnew.2.2]
    apply allAnnounced_step (ih hsteps hnew.1) _ hnew.2.1
    intro hstep
    rw [hstep] at hsteps
    exact hnotifies before after hsteps middle earlier hnew.1

/-- No change of a severity is lost exactly when no other thread changes it between the reading of the
watcher and the notification. -/
theorem noChangeLost_iff (infos : String → SensorInfo) (steps : List NotificationStep) :
    NoChangeLost infos steps ↔ NotifiesSeverities infos steps := by
  apply Iff.intro
  · intro hkept before after hsteps state notifications hrun sensor throttlingStatus hheld hpending
    have hstep : notificationStep infos state .notify =
        some ({ state.setStatus sensor
            { state.statuses sensor with pendingNotification := false } with held := none },
          [(sensor, throttlingStatus)]) := by
      unfold notificationStep notifyPending
      rw [hheld]
      dsimp only
      rw [if_pos hpending]
    have hsplit : steps = (before ++ [.notify]) ++ after := by
      rw [hsteps, List.append_assoc, List.singleton_append]
    have hannounced := hkept _ after hsplit _ _ (runSteps_append_singleton _ hrun hstep) rfl sensor
    rw [lastNotified_concat, if_pos rfl] at hannounced
    unfold NotificationState.setStatus at hannounced
    dsimp only at hannounced
    rw [Function.update_self] at hannounced
    apply Or.elim hannounced
    · exact id
    · intro hfalse
      cases hfalse
  · intro hnotifies before after hsteps state notifications hrun _
    exact allAnnounced_run hnotifies hsteps hrun

/-- The watcher reads a light severity, another thread a severe one, and the light one is notified. -/
def overtakenReading : List NotificationStep :=
  [.watcherRead "skin" (.fin 30) .light, .read "skin" (.fin 30) .severe, .notify]

theorem overtakenReading_lost :
    ¬ NoChangeLost (fun _ ↦ { (default : SensorInfo) with isWatch := true }) overtakenReading := by
  intro hkept
  have hannounced := hkept overtakenReading [] rfl _ _ rfl rfl "skin"
  rcases hannounced with hsame | hpending
  · cases hsame
  · cases hpending

end HardwareMediatek.Thermal
