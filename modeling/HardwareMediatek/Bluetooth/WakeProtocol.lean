import HardwareMediatek.Foundation.EffectRuns

/-!
# The low power wake protocol

Packets wake the controller, and a timeout without packets lets it sleep again. Two globals and the
timeout of the watcher hold where the protocol stands. The timeout that is started when the firmware has
been configured is started whether or not the controller was woken.
-/

namespace HardwareMediatek.Bluetooth

open Foundation

/-- `bt_vendor_lpm_wake_state_t` -/
inductive WakeState where
  | assert
  | deassert
deriving DecidableEq, Repr

/-- What the watcher runs when the timeout has passed. -/
inductive TimeoutCallback where
  | onTimeout
  /-- the one that only logs -/
  | zeroTimeout
deriving DecidableEq, Repr

structure Watcher where
  timeout_ms : UInt32 := 0
  timeout_cb : Option TimeoutCallback := none
deriving DecidableEq, Repr

/-- The globals of the power management, and the members of the interface that it uses. -/
structure LowPower where
  lpm_wake_deasserted : Bool
  lpm_timeout_ms : UInt32
  recent_activity_flag : Bool
  hci : Bool
  initialize_complete_cb : Bool
  fd_watcher : Watcher
deriving DecidableEq, Repr

inductive WakeStep where
  | send (type : UInt8) (data : List UInt8)
  /-- the watcher runs its callback -/
  | timeout
  /-- with the idle timeout that the library leaves -/
  | onFirmwareConfigured (result : UInt8) (idleTimeout : UInt32)
deriving DecidableEq, Repr

inductive WakeEffect where
  | wakeSetState (state : WakeState)
  | packet (type : UInt8) (data : List UInt8)
  /-- `OnTimeout` is entered. -/
  | onTimeout
  | initializeComplete (success : Bool)
  | getIdleTimeout (idleTimeout : UInt32)
  | lpmEnable
deriving DecidableEq, Repr

/-- What `Open` leaves of what it finds: the watcher is new, and two of the globals are not set. -/
def LowPower.opened (found : LowPower) : LowPower :=
  { found with
    lpm_wake_deasserted := true
    fd_watcher := {} }

/-- The transport is there if the library has opened one descriptor. -/
def LowPower.send (power : LowPower) (type : UInt8) (data : List UInt8) :
    Option (LowPower × List WakeEffect) :=
  if power.hci then
    let power := { power with recent_activity_flag := true }
    if power.lpm_wake_deasserted then
      some ({ power with
        fd_watcher := ⟨power.lpm_timeout_ms, some .onTimeout⟩
        lpm_wake_deasserted := false }, [.wakeSetState .assert, .packet type data])
    else some (power, [.packet type data])
  else none

def LowPower.onFirmwareConfigured (power : LowPower) (result : UInt8) (idleTimeout : UInt32) :
    LowPower × List WakeEffect :=
  ({ power with
    initialize_complete_cb := false
    lpm_timeout_ms := idleTimeout
    fd_watcher := ⟨idleTimeout, some .onTimeout⟩ },
    (if power.initialize_complete_cb then [.initializeComplete (result = 0)] else []) ++
      [.getIdleTimeout idleTimeout, .lpmEnable])

def LowPower.onTimeout (power : LowPower) : LowPower × List WakeEffect :=
  if power.recent_activity_flag then
    ({ power with recent_activity_flag := false }, [.onTimeout])
  else
    ({ power with
      lpm_wake_deasserted := true
      fd_watcher := ⟨0, some .zeroTimeout⟩
      recent_activity_flag := false }, [.onTimeout, .wakeSetState .deassert])

/-- The watcher runs a callback only while a timeout is configured. -/
def wakeStep (power : LowPower) : WakeStep → Option (LowPower × List WakeEffect)
  | .send type data => power.send type data
  | .timeout =>
    if power.fd_watcher.timeout_ms = 0 then none
    else
      match power.fd_watcher.timeout_cb with
      | some .onTimeout => some power.onTimeout
      | some .zeroTimeout => some (power, [])
      | none => none
  | .onFirmwareConfigured result idleTimeout => some (power.onFirmwareConfigured result idleTimeout)

/-! ## What is right -/

def WakeEffect.wakeState : WakeEffect → Option WakeState
  | .wakeSetState state => some state
  | _ => none

def WakeEffect.idleTimeout : WakeEffect → Option UInt32
  | .getIdleTimeout idleTimeout => some idleTimeout
  | _ => none

def WakeEffect.isPacket : WakeEffect → Bool
  | .packet _ _ => true
  | _ => false

/-- The wake state that the library was given last. -/
def lastWake (effects : List WakeEffect) : Option WakeState :=
  (effects.filterMap WakeEffect.wakeState).getLast?

/-- The idle timeout that the library gave last. -/
def lastIdleTimeout (effects : List WakeEffect) : Option UInt32 :=
  (effects.filterMap WakeEffect.idleTimeout).getLast?

def isConfigured (effects : List WakeEffect) : Bool :=
  lastIdleTimeout effects ≠ none ∧ lastIdleTimeout effects ≠ some 0

/-- The firmware was configured with an idle timeout at some point. -/
def wasConfigured (effects : List WakeEffect) : Bool :=
  effects.any fun effect ↦ effect.idleTimeout ≠ none ∧ effect.idleTimeout ≠ some 0

/-- The firmware was configured with an idle timeout since the last wake request. -/
def wasWatched (effects : List WakeEffect) : Bool :=
  anySince (fun effect ↦ effect.wakeState ≠ none)
    (fun effect ↦ effect.idleTimeout ≠ none ∧ effect.idleTimeout ≠ some 0) effects

/-- A packet was sent since the last timeout. -/
def wasSent (effects : List WakeEffect) : Bool :=
  anySince (fun effect ↦ effect = .onTimeout) WakeEffect.isPacket effects

/-- An effect is in order after the effects before it. A request to sleep that does not answer one to
wake has to be excused. -/
def WakeEffect.InOrder (excused : List WakeEffect → Bool) (before : List WakeEffect) :
    WakeEffect → Prop
  | .packet _ _ => lastWake before = some .assert
  | .wakeSetState .assert => lastWake before ≠ some .assert
  | .wakeSetState .deassert =>
    (lastWake before = some .assert ∨ excused before = true) ∧
      ∃ earlier, before = earlier ++ [.onTimeout] ∧ wasSent earlier = false
  | _ => True

/-- The effects are in order, and a timeout runs while the controller is awake once it is configured. -/
structure KeepsWake (excused configured : List WakeEffect → Bool)
    (run : LowPower × List WakeEffect) : Prop where
  inOrder : EachAfter (WakeEffect.InOrder excused) run.2
  watched : configured run.2 = true → lastWake run.2 = some .assert →
    run.1.fd_watcher.timeout_ms ≠ 0

section Runs

variable {power final : LowPower} {effects : List WakeEffect} {taken : LowPower × List WakeEffect}

@[simp]
theorem lastWake_append (before new : List WakeEffect) :
    lastWake (before ++ new) = (lastWake new).or (lastWake before) := by
  unfold lastWake
  rw [List.filterMap_append, List.getLast?_append]

@[simp]
theorem lastIdleTimeout_append (before new : List WakeEffect) :
    lastIdleTimeout (before ++ new) = (lastIdleTimeout new).or (lastIdleTimeout before) := by
  unfold lastIdleTimeout
  rw [List.filterMap_append, List.getLast?_append]

theorem isConfigured_append (before new : List WakeEffect) :
    isConfigured (before ++ new) = if lastIdleTimeout new = none then isConfigured before else
      isConfigured new := by
  unfold isConfigured
  rw [lastIdleTimeout_append]
  cases lastIdleTimeout new with
  | none => rfl
  | some idleTimeout => rfl

theorem wasWatched_append (before new : List WakeEffect) :
    wasWatched (before ++ new) = (wasWatched new ||
      (!new.any (fun effect ↦ effect.wakeState ≠ none) && wasWatched before)) :=
  anySince_append _ _ before new

theorem wasSent_append (before new : List WakeEffect) :
    wasSent (before ++ new) = (wasSent new ||
      (!new.any (fun effect ↦ effect = .onTimeout) && wasSent before)) :=
  anySince_append _ _ before new

/-- What a step comes to. -/
inductive WakeCase (power : LowPower) : LowPower × List WakeEffect → Prop where
  | packet (hawake : power.lpm_wake_deasserted = false) (type : UInt8) (data : List UInt8) :
      WakeCase power ({ power with recent_activity_flag := true }, [.packet type data])
  | wake (hasleep : power.lpm_wake_deasserted = true) (type : UInt8) (data : List UInt8) :
      WakeCase power ({ power with
        recent_activity_flag := true
        fd_watcher := ⟨power.lpm_timeout_ms, some .onTimeout⟩
        lpm_wake_deasserted := false }, [.wakeSetState .assert, .packet type data])
  | recent : WakeCase power ({ power with recent_activity_flag := false }, [.onTimeout])
  | idle (hwatched : power.fd_watcher.timeout_ms ≠ 0) (hidle : power.recent_activity_flag = false) :
      WakeCase power ({ power with
        lpm_wake_deasserted := true
        fd_watcher := ⟨0, some .zeroTimeout⟩
        recent_activity_flag := false }, [.onTimeout, .wakeSetState .deassert])
  | quiet : WakeCase power (power, [])
  | configured (completed : List WakeEffect) (idleTimeout : UInt32)
      (hcompleted : completed = [] ∨ ∃ success, completed = [.initializeComplete success]) :
      WakeCase power ({ power with
        initialize_complete_cb := false
        lpm_timeout_ms := idleTimeout
        fd_watcher := ⟨idleTimeout, some .onTimeout⟩ },
        completed ++ [.getIdleTimeout idleTimeout, .lpmEnable])

theorem wakeCase_send {type : UInt8} {data : List UInt8} (h : power.send type data = some taken) :
    WakeCase power taken := by
  unfold LowPower.send at h
  dsimp only at h
  split_ifs at h with _ hasleep
  · rw [← Option.some.inj h]
    exact WakeCase.wake hasleep type data
  · rw [← Option.some.inj h]
    exact WakeCase.packet (Bool.not_eq_true _ ▸ hasleep) type data

theorem wakeCase_onTimeout (hwatched : power.fd_watcher.timeout_ms ≠ 0) :
    WakeCase power power.onTimeout := by
  unfold LowPower.onTimeout
  split_ifs with hrecent
  · exact WakeCase.recent
  · exact WakeCase.idle hwatched (Bool.not_eq_true _ ▸ hrecent)

theorem wakeCase_onFirmwareConfigured (power : LowPower) (result : UInt8) (idleTimeout : UInt32) :
    WakeCase power (power.onFirmwareConfigured result idleTimeout) := by
  apply WakeCase.configured
  split
  · exact Or.inr ⟨_, rfl⟩
  · exact Or.inl rfl

theorem wakeCase {step : WakeStep} (h : wakeStep power step = some taken) : WakeCase power taken := by
  cases step with
  | send type data => exact wakeCase_send h
  | timeout =>
    simp only [wakeStep] at h
    split_ifs at h with hwatched
    split at h
    · rw [← Option.some.inj h]
      exact wakeCase_onTimeout hwatched
    · rw [← Option.some.inj h]
      exact WakeCase.quiet
    · exact nomatch h
  | onFirmwareConfigured result idleTimeout =>
    rw [← Option.some.inj h]
    exact wakeCase_onFirmwareConfigured power result idleTimeout

/-- The globals tell where the protocol stands. -/
structure WakeHolds (power : LowPower) (effects : List WakeEffect) : Prop where
  asserted : lastWake effects = some .assert ↔ power.lpm_wake_deasserted = false
  watched : power.fd_watcher.timeout_ms ≠ 0 → power.lpm_wake_deasserted = true →
    wasWatched effects = true
  sent : power.recent_activity_flag = false → wasSent effects = false
  idleTimeout : isConfigured effects = true → power.lpm_timeout_ms ≠ 0
  keeps : KeepsWake wasWatched isConfigured (power, effects)

theorem wakeHolds_opened (found : LowPower) : WakeHolds found.opened [] where
  asserted := iff_of_false (by decide) (by simp [LowPower.opened])
  watched h := absurd rfl h
  sent _ := rfl
  idleTimeout h := absurd h (by decide)
  keeps := ⟨eachAfter_nil _, fun h ↦ nomatch h⟩

theorem WakeHolds.packet (h : WakeHolds power effects) (hawake : power.lpm_wake_deasserted = false)
    (type : UInt8) (data : List UInt8) :
    WakeHolds { power with recent_activity_flag := true } (effects ++ [.packet type data]) := by
  have hwake : lastWake (effects ++ [.packet type data]) = lastWake effects := lastWake_append _ _
  have hconfigured : isConfigured (effects ++ [.packet type data]) = isConfigured effects :=
    isConfigured_append _ _
  constructor
  · rw [hwake]
    exact h.asserted
  · exact fun _ hasleep ↦ absurd (hawake.symm.trans hasleep) (by decide)
  · exact fun hrecent ↦ nomatch hrecent
  · rw [hconfigured]
    exact h.idleTimeout
  · constructor
    · exact (eachAfter_concat _ _ _).mpr ⟨h.keeps.inOrder, h.asserted.mpr hawake⟩
    · dsimp only
      rw [hwake, hconfigured]
      exact h.keeps.watched

theorem WakeHolds.wake (h : WakeHolds power effects) (hasleep : power.lpm_wake_deasserted = true)
    (type : UInt8) (data : List UInt8) :
    WakeHolds { power with
      recent_activity_flag := true
      fd_watcher := ⟨power.lpm_timeout_ms, some .onTimeout⟩
      lpm_wake_deasserted := false } (effects ++ [.wakeSetState .assert, .packet type data]) := by
  have hwake : lastWake (effects ++ [.wakeSetState .assert, .packet type data]) = some .assert :=
    lastWake_append _ _
  have hconfigured : isConfigured (effects ++ [.wakeSetState .assert, .packet type data]) =
      isConfigured effects := isConfigured_append _ _
  have hbefore : lastWake effects ≠ some .assert := by
    rw [Ne, h.asserted, hasleep]
    decide
  constructor
  · exact iff_of_true hwake rfl
  · exact fun _ hasleep ↦ nomatch hasleep
  · exact fun hrecent ↦ nomatch hrecent
  · rw [hconfigured]
    exact h.idleTimeout
  · constructor
    · rw [eachAfter_append, eachAfter_cons, eachAfter_singleton, List.append_nil]
      exact ⟨h.keeps.inOrder, hbefore, lastWake_append _ _⟩
    · dsimp only
      rw [hconfigured]
      exact fun hconfigured _ ↦ h.idleTimeout hconfigured

theorem WakeHolds.recent (h : WakeHolds power effects) :
    WakeHolds { power with recent_activity_flag := false } (effects ++ [.onTimeout]) := by
  have hwake : lastWake (effects ++ [.onTimeout]) = lastWake effects := lastWake_append _ _
  have hconfigured : isConfigured (effects ++ [.onTimeout]) = isConfigured effects :=
    isConfigured_append _ _
  have hwatched : wasWatched (effects ++ [.onTimeout]) = wasWatched effects := wasWatched_append _ _
  constructor
  · rw [hwake]
    exact h.asserted
  · rw [hwatched]
    exact h.watched
  · exact fun _ ↦ wasSent_append _ _
  · rw [hconfigured]
    exact h.idleTimeout
  · constructor
    · exact (eachAfter_concat _ _ _).mpr ⟨h.keeps.inOrder, trivial⟩
    · dsimp only
      rw [hwake, hconfigured]
      exact h.keeps.watched

theorem WakeHolds.idle (h : WakeHolds power effects) (hwatched : power.fd_watcher.timeout_ms ≠ 0)
    (hidle : power.recent_activity_flag = false) :
    WakeHolds { power with
      lpm_wake_deasserted := true
      fd_watcher := ⟨0, some .zeroTimeout⟩
      recent_activity_flag := false } (effects ++ [.onTimeout, .wakeSetState .deassert]) := by
  have hwake : lastWake (effects ++ [.onTimeout, .wakeSetState .deassert]) = some .deassert :=
    lastWake_append _ _
  have hconfigured : isConfigured (effects ++ [.onTimeout, .wakeSetState .deassert]) =
      isConfigured effects := isConfigured_append _ _
  -- the controller is awake, or a configuration has started the timeout that has passed
  have hexcused : lastWake (effects ++ [.onTimeout]) = some .assert ∨
      wasWatched (effects ++ [.onTimeout]) = true := by
    rw [lastWake_append, wasWatched_append]
    cases hasleep : power.lpm_wake_deasserted with
    | false => exact Or.inl (h.asserted.mpr hasleep)
    | true => exact Or.inr (h.watched hwatched hasleep)
  constructor
  · rw [hwake]
    exact iff_of_false (by decide) fun hawake ↦ nomatch hawake
  · exact fun hzero ↦ absurd rfl hzero
  · exact fun _ ↦ wasSent_append _ _
  · rw [hconfigured]
    exact h.idleTimeout
  · constructor
    · rw [eachAfter_append, eachAfter_cons, eachAfter_singleton, List.append_nil]
      exact ⟨h.keeps.inOrder, trivial, hexcused, effects, rfl, h.sent hidle⟩
    · dsimp only
      rw [hwake]
      exact fun _ hasserted ↦ nomatch hasserted

theorem WakeHolds.configured (h : WakeHolds power effects) {completed : List WakeEffect}
    (idleTimeout : UInt32)
    (hcompleted : completed = [] ∨ ∃ success, completed = [.initializeComplete success]) :
    WakeHolds { power with
      initialize_complete_cb := false
      lpm_timeout_ms := idleTimeout
      fd_watcher := ⟨idleTimeout, some .onTimeout⟩ }
      (effects ++ (completed ++ [.getIdleTimeout idleTimeout, .lpmEnable])) := by
  generalize hnew : completed ++ [.getIdleTimeout idleTimeout, .lpmEnable] = new
  have hwake : lastWake new = none := by
    rcases hcompleted with rfl | ⟨success, rfl⟩ <;> exact hnew ▸ rfl
  have hlast : lastIdleTimeout new = some idleTimeout := by
    rcases hcompleted with rfl | ⟨success, rfl⟩ <;> exact hnew ▸ rfl
  have hwatched : wasWatched new = decide (idleTimeout ≠ 0) := by
    rcases hcompleted with rfl | ⟨success, rfl⟩ <;>
      simp [← hnew, wasWatched, anySince, WakeEffect.idleTimeout, WakeEffect.wakeState]
  have hsent : wasSent (effects ++ new) = wasSent effects := by
    rcases hcompleted with rfl | ⟨success, rfl⟩ <;> exact hnew ▸ wasSent_append _ _
  have hinOrder : EachAfter (fun earlier ↦ WakeEffect.InOrder wasWatched (effects ++ earlier)) new := by
    rcases hcompleted with rfl | ⟨success, rfl⟩ <;>
      simp [← hnew, eachAfter_cons, eachAfter_nil, WakeEffect.InOrder]
  have hconfigured : isConfigured (effects ++ new) = decide (idleTimeout ≠ 0) := by
    unfold isConfigured
    rw [lastIdleTimeout_append, hlast]
    simp
  constructor
  · rw [lastWake_append, hwake]
    exact h.asserted
  · intro hne _
    rw [wasWatched_append, hwatched, decide_eq_true hne]
    rfl
  · rw [hsent]
    exact h.sent
  · rw [hconfigured]
    exact of_decide_eq_true
  · constructor
    · exact (eachAfter_append _ _ _).mpr ⟨h.keeps.inOrder, hinOrder⟩
    · rw [hconfigured]
      exact fun hne _ ↦ of_decide_eq_true hne

theorem WakeHolds.step {step : WakeStep} (h : WakeHolds power effects)
    (hstep : wakeStep power step = some taken) : WakeHolds taken.1 (effects ++ taken.2) := by
  cases wakeCase hstep with
  | packet hawake type data => exact h.packet hawake type data
  | wake hasleep type data => exact h.wake hasleep type data
  | recent => exact h.recent
  | idle hwatched hidle => exact h.idle hwatched hidle
  | quiet => exact (List.append_nil effects).symm ▸ h
  | configured completed idleTimeout hcompleted => exact h.configured idleTimeout hcompleted

/-- In every run after `Open` packets find the controller awake, requests to sleep come without recent
packets and answer a request to wake or follow a configuration, and a configured timeout runs while the
controller is awake. -/
theorem keepsWake_of_run (found : LowPower) (steps : List WakeStep) {final : LowPower}
    {effects : List WakeEffect}
    (hrun : runSteps wakeStep found.opened steps = some (final, effects)) :
    KeepsWake wasWatched isConfigured (final, effects) := by
  have hholds : WakeHolds final effects := by
    apply runSteps_keeps wakeStep (fun _ power effects ↦ WakeHolds power effects) _ _ hrun
    · exact wakeHolds_opened found
    · exact fun _ _ _ _ _ _ hholds hstep ↦ hholds.step hstep
  exact hholds.keeps

/-- The globals as a process finds them. -/
def foundAtStart : LowPower := ⟨false, 0, false, true, true, {}⟩

theorem keepsWake_firstPacket :
    KeepsWake wasWatched isConfigured
      (⟨true, 500, false, true, false, ⟨0, some .zeroTimeout⟩⟩,
        [.initializeComplete true, .getIdleTimeout 500, .lpmEnable, .wakeSetState .assert,
          .packet 1 [0x03, 0x0C, 0], .onTimeout, .onTimeout, .wakeSetState .deassert]) :=
  keepsWake_of_run foundAtStart
    [.onFirmwareConfigured 0 500, .send 1 [0x03, 0x0C, 0], .timeout, .timeout] (by decide)

/-- A timeout that passes before the first packet requests sleep first. A configuration without an idle
timeout stops the timeout of an earlier one. -/
theorem not_keepsWake_configured :
    (∃ run, runSteps wakeStep foundAtStart.opened [.onFirmwareConfigured 0 500, .timeout] = some run ∧
      ¬ KeepsWake (fun _ ↦ false) wasConfigured run) ∧
    ∃ run, runSteps wakeStep foundAtStart.opened
        [.onFirmwareConfigured 0 500, .send 1 [], .onFirmwareConfigured 0 0] = some run ∧
      ¬ KeepsWake wasWatched wasConfigured run := by
  constructor
  · refine ⟨_, rfl, fun h ↦ ?_⟩
    have hdeassert := h.inOrder [.initializeComplete true, .getIdleTimeout 500, .lpmEnable, .onTimeout]
      (.wakeSetState .deassert) [] rfl
    exact absurd hdeassert.1 (by decide)
  · refine ⟨_, rfl, fun h ↦ ?_⟩
    exact absurd (h.watched (by decide) (by decide)) (by decide)

end Runs

end HardwareMediatek.Bluetooth
