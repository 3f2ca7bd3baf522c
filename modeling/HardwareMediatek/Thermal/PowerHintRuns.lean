import HardwareMediatek.Foundation.EffectRuns
import HardwareMediatek.Thermal.PowerHints

/-!
# Runs of power hints

Hints and reconnections leave exactly the supported modes up to the last severity enabled, as long as
every mode is supported at a reconnection, which does not ask, and the first hint of a sensor is for a
severity that counts as more than none, as no mode is set before the severity has changed.
-/

namespace HardwareMediatek.Thermal

open Foundation UnorderedMap

section Modes

/-- The modes after some calls that all succeed. -/
def setModes (calls : List SetMode) (modes : String → ThrottlingSeverity → Bool) :
    String → ThrottlingSeverity → Bool :=
  calls.foldl (fun modes call type severity ↦
    if type = call.type ∧ severity = call.severity then call.enable else modes type severity) modes

/-- A hint, or the power HAL that is back after it has died. -/
inductive HintEvent where
  | send (t : Temperature)
  | reconnect

structure HintState where
  service : PowerHalService
  modes : String → ThrottlingSeverity → Bool

/-- The calls that an event makes. -/
def hintCalls (service : PowerHalService) : HintEvent → List SetMode
  | .send t => (sendPowerExtHint t service).2
  | .reconnect => reconnect true service

/-- A power HAL that is back has no mode enabled. -/
def hintStep (state : HintState) : HintEvent → HintState
  | .send t => ⟨(sendPowerExtHint t state.service).1,
      setModes (hintCalls state.service (.send t)) state.modes⟩
  | .reconnect => ⟨state.service, setModes (hintCalls state.service .reconnect) fun _ _ ↦ false⟩

def hintRun (start : HintState) (events : List HintEvent) : HintState := events.foldl hintStep start

/-- The service that has asked what the power HAL supports, before any hint. -/
def hintStart (isModeSupported : String → ThrottlingSeverity → Bool)
    (sensorInfoMap : UnorderedMap String SensorInfo) : HintState :=
  ⟨updateSupportedPowerHints isModeSupported sensorInfoMap ⟨true, ∅⟩, fun _ _ ↦ false⟩

theorem setModes_append (calls calls' : List SetMode) (modes : String → ThrottlingSeverity → Bool) :
    setModes (calls ++ calls') modes = setModes calls' (setModes calls modes) := List.foldl_append

/-- Calls for the severities of one sensor. -/
theorem setModes_map (name : String) (severities : List ThrottlingSeverity)
    (enable : ThrottlingSeverity → Bool) (modes : String → ThrottlingSeverity → Bool) (type : String)
    (severity : ThrottlingSeverity) :
    setModes (severities.map fun severity ↦ ⟨name, severity, enable severity⟩) modes type severity =
      if type = name ∧ severity ∈ severities then enable severity else modes type severity := by
  induction severities using List.reverseRecOn with
  | nil => simp [setModes]
  | append_singleton severities last ih =>
    rw [List.map_append, List.map_singleton, setModes_append]
    change (if type = name ∧ severity = last then enable last else setModes _ modes type severity) = _
    rw [ih]
    by_cases hname : type = name
    · by_cases hlast : severity = last
      · simp [hname, hlast]
      · simp [hname, hlast]
    · simp [hname]

/-- Calls for other sensors leave the modes of a sensor. -/
theorem setModes_reconnect_of_not_mem {entries : List (Sigma fun _ : String ↦ PowerHintStatus)}
    {name : String} (hnot : name ∉ entries.map Sigma.fst)
    (modes : String → ThrottlingSeverity → Bool) (severity : ThrottlingSeverity) :
    setModes (entries.flatMap fun sensor ↦ ThrottlingSeverity.all.map fun severity ↦
      ⟨sensor.1, severity, severity ≤ sensor.2.prevHintSeverity⟩) modes name severity =
        modes name severity := by
  induction entries generalizing modes with
  | nil => rfl
  | cons sensor sensors ih =>
    rw [List.map_cons, List.mem_cons, not_or] at hnot
    rw [List.flatMap_cons, setModes_append, ih hnot.2, setModes_map, if_neg fun hboth ↦ hnot.1 hboth.1]

/-- A reconnection enables the modes of a sensor up to its previous severity. -/
theorem setModes_reconnect {entries : List (Sigma fun _ : String ↦ PowerHintStatus)}
    (hnodup : (entries.map Sigma.fst).Nodup) {name : String} {status : PowerHintStatus}
    (hentry : ⟨name, status⟩ ∈ entries) (modes : String → ThrottlingSeverity → Bool)
    (severity : ThrottlingSeverity) :
    setModes (entries.flatMap fun sensor ↦ ThrottlingSeverity.all.map fun severity ↦
      ⟨sensor.1, severity, severity ≤ sensor.2.prevHintSeverity⟩) modes name severity =
        decide (severity ≤ status.prevHintSeverity) := by
  induction entries generalizing modes with
  | nil => cases hentry
  | cons sensor sensors ih =>
    have hsplit := List.nodup_cons.mp hnodup
    rw [List.flatMap_cons, setModes_append]
    rcases List.mem_cons.mp hentry with rfl | hlater
    · rw [setModes_reconnect_of_not_mem hsplit.1, setModes_map,
        if_pos ⟨rfl, ThrottlingSeverity.mem_all severity⟩]
    · exact ih hsplit.2 hlater _

end Modes

section Runs

variable (isModeSupported : String → ThrottlingSeverity → Bool)
  (sensorInfoMap : UnorderedMap String SensorInfo)

/-- The last severity that was sent for a sensor. -/
def lastSent (name : String) (events : List HintEvent) : Option ThrottlingSeverity :=
  events.foldl (fun last event ↦
    match event with
    | .send t => if t.name = name then some t.throttlingStatus else last
    | .reconnect => last) none

/-- Some event has set modes of a sensor: a reconnection, or a severity that counts as more than none. -/
def modesSet (name : String) (events : List HintEvent) : Bool :=
  events.any fun event ↦
    match event with
    | .send t => t.name = name && effectiveSeverity (isModeSupported name) t.throttlingStatus ≠ .none
    | .reconnect => true

/-- The sensors that hints are sent for. -/
def SendsHints (name : String) : Prop :=
  ∃ info, sensorInfoMap.lookup name = some info ∧ info.sendPowerhint = true

/-- After an event, the modes of every sensor that something was sent for are enabled exactly up to its
severity where they are supported, and only supported modes have been set. -/
def MirrorsSeverity (before : List HintEvent) (event : HintEvent) : Prop :=
  (∀ name severity, lastSent name (before ++ [event]) = some severity → ∀ mode,
    (hintRun (hintStart isModeSupported sensorInfoMap) (before ++ [event])).modes name mode = true ↔
      Supported (isModeSupported name) mode ∧ mode ≤ severity) ∧
  ∀ call ∈ hintCalls (hintRun (hintStart isModeSupported sensorInfoMap) before).service event,
    Supported (isModeSupported call.type) call.severity

/-- A severity that counts as none is not the first thing that is sent for a sensor, and at a
reconnection every mode is supported. -/
def HintInOrder (before : List HintEvent) : HintEvent → Prop
  | .send t => effectiveSeverity (isModeSupported t.name) t.throttlingStatus ≠ .none ∨
      modesSet isModeSupported t.name before = true
  | .reconnect => ∀ name, SendsHints sensorInfoMap name → ∀ severity,
      Supported (isModeSupported name) severity

/-- A hint is for a sensor that sends hints. -/
def ForSendingSensor : HintEvent → Prop
  | .send t => SendsHints sensorInfoMap t.name
  | .reconnect => True

theorem lastSent_concat_send (name : String) (events : List HintEvent) (t : Temperature) :
    lastSent name (events ++ [.send t]) =
      if t.name = name then some t.throttlingStatus else lastSent name events := by
  unfold lastSent
  rw [List.foldl_concat]

theorem lastSent_concat_reconnect (name : String) (events : List HintEvent) :
    lastSent name (events ++ [.reconnect]) = lastSent name events := by
  unfold lastSent
  rw [List.foldl_concat]

theorem hintRun_concat (start : HintState) (events : List HintEvent) (event : HintEvent) :
    hintRun start (events ++ [event]) = hintStep (hintRun start events) event := by
  unfold hintRun
  rw [List.foldl_concat]

/-- The severity that counts of what was sent last. -/
def sentSeverity (name : String) (events : List HintEvent) : ThrottlingSeverity :=
  ((lastSent name events).map (effectiveSeverity (isModeSupported name))).getD .none

/-- What the service knows after some events, whatever was supported. -/
structure TracksHints (events : List HintEvent) (state : HintState) : Prop where
  exist : state.service.powerHalAidlExist = true
  sensors : ∀ name, name ∈ state.service.supportedPowerhintMap ↔ SendsHints sensorInfoMap name
  hints : ∀ name status, state.service.supportedPowerhintMap.lookup name = some status →
    (∀ severity, status.hintSeverity severity = effectiveSeverity (isModeSupported name) severity) ∧
      status.prevHintSeverity = sentSeverity isModeSupported name events

/-- The modes that are enabled after some events in order. -/
structure TracksModes (events : List HintEvent) (state : HintState) : Prop
    extends TracksHints isModeSupported sensorInfoMap events state where
  set : ∀ name, SendsHints sensorInfoMap name → modesSet isModeSupported name events = true →
    ∀ mode, state.modes name mode = true ↔
      Supported (isModeSupported name) mode ∧ mode ≤ sentSeverity isModeSupported name events
  unset : ∀ name, SendsHints sensorInfoMap name → modesSet isModeSupported name events = false →
    lastSent name events = none ∧ ∀ mode, state.modes name mode = false

variable {isModeSupported sensorInfoMap}

theorem sentSeverity_concat_send (name : String) (events : List HintEvent) (t : Temperature) :
    sentSeverity isModeSupported name (events ++ [.send t]) =
      if t.name = name then effectiveSeverity (isModeSupported name) t.throttlingStatus
      else sentSeverity isModeSupported name events := by
  unfold sentSeverity
  rw [lastSent_concat_send]
  by_cases hname : t.name = name
  · rw [if_pos hname, if_pos hname]
    rfl
  · rw [if_neg hname, if_neg hname]

theorem sentSeverity_concat_reconnect (name : String) (events : List HintEvent) :
    sentSeverity isModeSupported name (events ++ [.reconnect]) =
      sentSeverity isModeSupported name events := by
  unfold sentSeverity
  rw [lastSent_concat_reconnect]

/-- A hint records the severity that counts, and sets modes when it has changed. -/
theorem sendPowerExtHint_eq {service : PowerHalService} (hexist : service.powerHalAidlExist = true)
    (t : Temperature) : sendPowerExtHint t service =
      ({ service with
          supportedPowerhintMap := service.supportedPowerhintMap.put t.name
            { service.hintStatus t.name with
              prevHintSeverity := (service.hintStatus t.name).hintSeverity t.throttlingStatus } },
        if (service.hintStatus t.name).prevHintSeverity =
            (service.hintStatus t.name).hintSeverity t.throttlingStatus then []
        else (ThrottlingSeverity.all.filter fun severity ↦
            severity = (service.hintStatus t.name).hintSeverity severity).map fun severity ↦
          ⟨t.name, severity, severity ≤ (service.hintStatus t.name).hintSeverity t.throttlingStatus⟩) := by
  unfold sendPowerExtHint
  rw [hexist]
  by_cases hsame : (service.hintStatus t.name).prevHintSeverity =
      (service.hintStatus t.name).hintSeverity t.throttlingStatus
  · simp only [Bool.not_true, Bool.false_eq_true, if_false, hsame, if_true]
  · simp only [Bool.not_true, Bool.false_eq_true, if_false, hsame]

section Step

variable {events : List HintEvent} {state : HintState}

theorem TracksHints.hintStatus (h : TracksHints isModeSupported sensorInfoMap events state)
    {name : String} (hsends : SendsHints sensorInfoMap name) :
    (∀ severity, (state.service.hintStatus name).hintSeverity severity =
      effectiveSeverity (isModeSupported name) severity) ∧
    (state.service.hintStatus name).prevHintSeverity = sentSeverity isModeSupported name events := by
  obtain ⟨status, hstatus⟩ := mem_iff_lookup.mp ((h.sensors name).mpr hsends)
  unfold PowerHalService.hintStatus
  rw [hstatus]
  exact h.hints name status hstatus

/-- The calls of a hint set the supported modes. -/
theorem TracksHints.calls_send (h : TracksHints isModeSupported sensorInfoMap events state)
    {t : Temperature} (hsends : SendsHints sensorInfoMap t.name) :
    hintCalls state.service (.send t) =
      if sentSeverity isModeSupported t.name events =
          effectiveSeverity (isModeSupported t.name) t.throttlingStatus then []
      else (ThrottlingSeverity.all.filter fun severity ↦ Supported (isModeSupported t.name) severity).map
        fun severity ↦ ⟨t.name, severity,
          severity ≤ effectiveSeverity (isModeSupported t.name) t.throttlingStatus⟩ := by
  have hstatus := h.hintStatus hsends
  rw [hintCalls, sendPowerExtHint_eq h.exist]
  simp only [hstatus.1, hstatus.2, effectiveSeverity_eq_self_iff]

theorem TracksHints.step (h : TracksHints isModeSupported sensorInfoMap events state)
    {event : HintEvent} (hsends : ForSendingSensor sensorInfoMap event) :
    TracksHints isModeSupported sensorInfoMap (events ++ [event]) (hintStep state event) := by
  cases event with
  | reconnect =>
    refine ⟨h.exist, h.sensors, ?_⟩
    intro name status hstatus
    rw [sentSeverity_concat_reconnect]
    exact h.hints name status hstatus
  | send t =>
    have hstatus := h.hintStatus hsends
    rw [hintStep, sendPowerExtHint_eq h.exist]
    refine ⟨h.exist, ?_, ?_⟩
    · intro name
      rw [mem_put, h.sensors, or_iff_right_iff_imp]
      intro hname
      rw [hname]
      exact hsends
    · intro name status hlookup
      rw [sentSeverity_concat_send]
      rw [lookup_put] at hlookup
      by_cases hname : name = t.name
      · rw [if_pos hname] at hlookup
        rw [if_pos hname.symm, ← Option.some.inj hlookup, hname]
        exact ⟨hstatus.1, hstatus.1 t.throttlingStatus⟩
      · rw [if_neg hname] at hlookup
        rw [if_neg (Ne.symm hname)]
        exact h.hints name status hlookup

/-- A hint sets the supported modes of its sensor when the severity that counts has changed. -/
theorem TracksHints.modes_send (h : TracksHints isModeSupported sensorInfoMap events state)
    {t : Temperature} (hsends : SendsHints sensorInfoMap t.name) (name : String)
    (mode : ThrottlingSeverity) :
    (hintStep state (.send t)).modes name mode =
      if name = t.name ∧ sentSeverity isModeSupported t.name events ≠
            effectiveSeverity (isModeSupported t.name) t.throttlingStatus ∧
          Supported (isModeSupported t.name) mode
      then decide (mode ≤ effectiveSeverity (isModeSupported t.name) t.throttlingStatus)
      else state.modes name mode := by
  rw [hintStep, h.calls_send hsends]
  by_cases hsame : sentSeverity isModeSupported t.name events =
      effectiveSeverity (isModeSupported t.name) t.throttlingStatus
  · rw [if_pos hsame, if_neg fun hboth ↦ hboth.2.1 hsame]
    rfl
  · rw [if_neg hsame]
    simp only [setModes_map, List.mem_filter, ThrottlingSeverity.mem_all, decide_eq_true_eq, true_and,
      ne_eq, hsame, not_false_eq_true]

/-- A reconnection enables the modes of a sensor up to what was sent last. -/
theorem TracksHints.modes_reconnect (h : TracksHints isModeSupported sensorInfoMap events state)
    {name : String} (hsends : SendsHints sensorInfoMap name) (mode : ThrottlingSeverity) :
    (hintStep state .reconnect).modes name mode =
      decide (mode ≤ sentSeverity isModeSupported name events) := by
  obtain ⟨status, hstatus⟩ := mem_iff_lookup.mp ((h.sensors name).mpr hsends)
  rw [← (h.hints name status hstatus).2]
  exact setModes_reconnect state.service.supportedPowerhintMap.nodupKeys
    (mem_entries_iff.mpr hstatus) _ mode

theorem modesSet_concat_send (name : String) (events : List HintEvent) (t : Temperature) :
    modesSet isModeSupported name (events ++ [.send t]) =
      (modesSet isModeSupported name events || (t.name = name &&
        effectiveSeverity (isModeSupported name) t.throttlingStatus ≠ .none)) := by
  unfold modesSet
  rw [List.any_append]
  simp

theorem modesSet_concat_reconnect (name : String) (events : List HintEvent) :
    modesSet isModeSupported name (events ++ [.reconnect]) = true := by
  unfold modesSet
  rw [List.any_append]
  simp

/-- What was sent last for a sensor whose modes are set counts as the enabled supported modes. -/
theorem le_sentSeverity_iff {name : String} {severity mode : ThrottlingSeverity}
    (hlast : lastSent name events = some severity) (hsupported : Supported (isModeSupported name) mode) :
    mode ≤ sentSeverity isModeSupported name events ↔ mode ≤ severity := by
  unfold sentSeverity
  rw [hlast]
  exact le_effectiveSeverity_iff hsupported

/-- Only supported modes are enabled. -/
theorem TracksModes.supported (h : TracksModes isModeSupported sensorInfoMap events state) {name : String}
    (hsends : SendsHints sensorInfoMap name) {mode : ThrottlingSeverity}
    (hmode : state.modes name mode = true) : Supported (isModeSupported name) mode := by
  cases hset : modesSet isModeSupported name events with
  | true => exact ((h.set name hsends hset mode).mp hmode).1
  | false =>
    rw [(h.unset name hsends hset).2 mode] at hmode
    cases hmode

/-- When a hint in order changes nothing, modes have been set before. -/
theorem TracksModes.modesSet_of_same (h : TracksModes isModeSupported sensorInfoMap events state)
    {t : Temperature} (hsends : SendsHints sensorInfoMap t.name)
    (horder : HintInOrder isModeSupported sensorInfoMap events (.send t))
    (hsame : sentSeverity isModeSupported t.name events =
      effectiveSeverity (isModeSupported t.name) t.throttlingStatus) :
    modesSet isModeSupported t.name events = true := by
  by_contra hunset
  have hlast := (h.unset t.name hsends (Bool.eq_false_of_not_eq_true hunset)).1
  have hnone : sentSeverity isModeSupported t.name events = .none := by
    unfold sentSeverity
    rw [hlast]
    rfl
  exact (horder.resolve_right hunset) (hsame.symm.trans hnone)

/-- A hint in order keeps the modes. -/
theorem TracksModes.send (h : TracksModes isModeSupported sensorInfoMap events state)
    {t : Temperature} (hsends : SendsHints sensorInfoMap t.name)
    (horder : HintInOrder isModeSupported sensorInfoMap events (.send t)) :
    TracksModes isModeSupported sensorInfoMap (events ++ [.send t]) (hintStep state (.send t)) := by
  have htracks : TracksHints isModeSupported sensorInfoMap (events ++ [.send t])
      (hintStep state (.send t)) := @TracksHints.step _ _ _ _ h.toTracksHints (.send t) hsends
  refine { htracks with set := ?_, unset := ?_ }
  · intro name hname hset mode
    rw [h.modes_send hsends, sentSeverity_concat_send]
    by_cases hsame : name = t.name
    · rw [hsame, if_pos rfl]
      by_cases hunchanged : sentSeverity isModeSupported t.name events =
          effectiveSeverity (isModeSupported t.name) t.throttlingStatus
      · rw [if_neg fun hboth ↦ hboth.2.1 hunchanged, ← hunchanged]
        exact h.set t.name hsends (h.modesSet_of_same hsends horder hunchanged) mode
      · by_cases hsupported : Supported (isModeSupported t.name) mode
        · rw [if_pos ⟨rfl, hunchanged, hsupported⟩, decide_eq_true_eq, and_iff_right hsupported]
        · rw [if_neg fun hboth ↦ hsupported hboth.2.2]
          exact iff_of_false (fun hmode ↦ hsupported (h.supported hsends hmode))
            fun hboth ↦ hsupported hboth.1
    · rw [modesSet_concat_send, decide_eq_false (Ne.symm hsame), Bool.false_and, Bool.or_false] at hset
      rw [if_neg fun hboth ↦ hsame hboth.1, if_neg (Ne.symm hsame)]
      exact h.set name hname hset mode
  · intro name hname hunset
    rw [modesSet_concat_send, Bool.or_eq_false_iff] at hunset
    have hother : t.name ≠ name := by
      intro hsame
      have hset := horder.resolve_left fun hne ↦ by simp [hsame ▸ hne, hsame] at hunset
      rw [hsame, hunset.1] at hset
      cases hset
    rw [lastSent_concat_send, if_neg hother]
    apply And.intro (h.unset name hname hunset.1).1
    intro mode
    rw [h.modes_send hsends, if_neg fun hboth ↦ hother hboth.1.symm]
    exact (h.unset name hname hunset.1).2 mode

/-- A reconnection in order keeps the modes. -/
theorem TracksModes.reconnect (h : TracksModes isModeSupported sensorInfoMap events state)
    (horder : HintInOrder isModeSupported sensorInfoMap events .reconnect) :
    TracksModes isModeSupported sensorInfoMap (events ++ [.reconnect]) (hintStep state .reconnect) := by
  have htracks : TracksHints isModeSupported sensorInfoMap (events ++ [.reconnect])
      (hintStep state .reconnect) := @TracksHints.step _ _ _ _ h.toTracksHints .reconnect trivial
  refine { htracks with set := ?_, unset := ?_ }
  · intro name hname _ mode
    rw [h.modes_reconnect hname, sentSeverity_concat_reconnect, decide_eq_true_eq,
      and_iff_right (horder name hname mode)]
  · intro name _ hunset
    rw [modesSet_concat_reconnect] at hunset
    cases hunset

end Step

theorem tracksModes_start :
    TracksModes isModeSupported sensorInfoMap [] (hintStart isModeSupported sensorInfoMap) := by
  have hfound := hintsFound_update isModeSupported sensorInfoMap
  refine ⟨⟨hfound.exist, ?_, hfound.hints⟩, fun _ _ hset ↦ (nomatch hset), fun _ _ _ ↦ ⟨rfl, fun _ ↦ rfl⟩⟩
  intro name
  rw [hintStart, hfound.sensors]
  apply Iff.intro
  · rintro ⟨sensor, hentry, hname, hsendsHints⟩
    exact ⟨sensor.2, hname ▸ lookup_of_mem_entries hentry, hsendsHints⟩
  · rintro ⟨info, hinfo, hsendsHints⟩
    exact ⟨⟨name, info⟩, mem_entries_iff.mpr hinfo, rfl, hsendsHints⟩

/-- Events in order leave the supported modes enabled up to what was sent last. -/
theorem tracksModes_run {events : List HintEvent}
    (hsends : ∀ event ∈ events, ForSendingSensor sensorInfoMap event)
    (horder : EachAfter (HintInOrder isModeSupported sensorInfoMap) events) :
    TracksModes isModeSupported sensorInfoMap events
      (hintRun (hintStart isModeSupported sensorInfoMap) events) := by
  induction events using List.reverseRecOn with
  | nil => exact tracksModes_start
  | append_singleton events event ih =>
    have hsplit := (eachAfter_concat _ events event).mp horder
    have hbefore := ih (fun other hin ↦ hsends other (List.mem_append_left _ hin)) hsplit.1
    have hlast := hsends event List.mem_append_cons_self
    rw [hintRun_concat]
    cases event with
    | send t => exact hbefore.send hlast hsplit.2
    | reconnect => exact hbefore.reconnect hsplit.2

/-- What was sent last for a sensor was sent. -/
theorem sendsHints_of_lastSent {events : List HintEvent}
    (hsends : ∀ event ∈ events, ForSendingSensor sensorInfoMap event) {name : String}
    {severity : ThrottlingSeverity} (hlast : lastSent name events = some severity) :
    SendsHints sensorInfoMap name := by
  induction events using List.reverseRecOn with
  | nil => cases hlast
  | append_singleton events event ih =>
    have hearlier := ih fun other hin ↦ hsends other (List.mem_append_left _ hin)
    have hevent := hsends event List.mem_append_cons_self
    cases event with
    | reconnect =>
      rw [lastSent_concat_reconnect] at hlast
      exact hearlier hlast
    | send t =>
      rw [lastSent_concat_send] at hlast
      by_cases hname : t.name = name
      · exact hname ▸ hevent
      · rw [if_neg hname] at hlast
        exact hearlier hlast

/-- The modes after events in order are those that mirror the severities. -/
theorem TracksModes.mirrors {events : List HintEvent} {state : HintState}
    (h : TracksModes isModeSupported sensorInfoMap events state) {name : String}
    (hsends : SendsHints sensorInfoMap name) {severity : ThrottlingSeverity}
    (hlast : lastSent name events = some severity) (mode : ThrottlingSeverity) :
    state.modes name mode = true ↔ Supported (isModeSupported name) mode ∧ mode ≤ severity := by
  have hset : modesSet isModeSupported name events = true := by
    by_contra hunset
    have hnone := (h.unset name hsends (Bool.eq_false_of_not_eq_true hunset)).1
    rw [hnone] at hlast
    cases hlast
  rw [h.set name hsends hset mode]
  exact and_congr_right (le_sentSeverity_iff hlast)

/-- A reconnection sets every mode of every sensor that sends hints. -/
theorem TracksHints.mem_calls_reconnect {events : List HintEvent} {state : HintState}
    (h : TracksHints isModeSupported sensorInfoMap events state) (type : String)
    (severity : ThrottlingSeverity) :
    (∃ call ∈ hintCalls state.service .reconnect, call.type = type ∧ call.severity = severity) ↔
      SendsHints sensorInfoMap type := by
  rw [← h.sensors type, mem_iff_lookup]
  change (∃ call ∈ state.service.supportedPowerhintMap.entries.flatMap _, _) ↔ _
  simp only [List.mem_flatMap, List.mem_map, ThrottlingSeverity.mem_all, true_and]
  apply Iff.intro
  · rintro ⟨_, ⟨sensor, hentry, mode, rfl⟩, rfl, rfl⟩
    exact ⟨sensor.2, lookup_of_mem_entries hentry⟩
  · rintro ⟨status, hstatus⟩
    exact ⟨_, ⟨⟨type, status⟩, mem_entries_iff.mpr hstatus, severity, rfl⟩, rfl, rfl⟩

/-- A hint mirrors its severity when it is in order. -/
theorem mirrorsSeverity_send_iff {before : List HintEvent} {t : Temperature}
    (hsends : ∀ event ∈ before ++ [.send t], ForSendingSensor sensorInfoMap event)
    (h : TracksModes isModeSupported sensorInfoMap before
      (hintRun (hintStart isModeSupported sensorInfoMap) before)) :
    MirrorsSeverity isModeSupported sensorInfoMap before (.send t) ↔
      HintInOrder isModeSupported sensorInfoMap before (.send t) := by
  have hname : SendsHints sensorInfoMap t.name :=
    hsends (.send t) List.mem_append_cons_self
  unfold MirrorsSeverity
  rw [hintRun_concat]
  apply Iff.intro
  · intro hmirrors
    by_contra hnot
    unfold HintInOrder at hnot
    push Not at hnot
    have hunset := h.unset t.name hname (Bool.eq_false_of_not_eq_true hnot.2)
    have hsame : sentSeverity isModeSupported t.name before =
        effectiveSeverity (isModeSupported t.name) t.throttlingStatus := by
      unfold sentSeverity
      rw [hunset.1, hnot.1]
      rfl
    have hmode := (hmirrors.1 t.name t.throttlingStatus
      ((lastSent_concat_send _ _ _).trans (if_pos rfl)) .none).mpr
        ⟨Or.inl rfl, ThrottlingSeverity.none_le _⟩
    rw [h.modes_send hname, if_neg fun hboth ↦ hboth.2.1 hsame, hunset.2] at hmode
    cases hmode
  · intro horder
    apply And.intro
    · intro name severity hlast mode
      exact (h.send hname horder).mirrors (sendsHints_of_lastSent hsends hlast) hlast mode
    · intro call hcall
      rw [h.calls_send hname] at hcall
      split at hcall
      · cases hcall
      · obtain ⟨severity, hin, rfl⟩ := List.mem_map.mp hcall
        exact of_decide_eq_true (List.mem_filter.mp hin).2

/-- A reconnection mirrors the severities when every mode is supported. -/
theorem mirrorsSeverity_reconnect_iff {before : List HintEvent}
    (hsends : ∀ event ∈ before ++ [.reconnect], ForSendingSensor sensorInfoMap event)
    (h : TracksModes isModeSupported sensorInfoMap before
      (hintRun (hintStart isModeSupported sensorInfoMap) before)) :
    MirrorsSeverity isModeSupported sensorInfoMap before .reconnect ↔
      HintInOrder isModeSupported sensorInfoMap before .reconnect := by
  unfold MirrorsSeverity
  rw [hintRun_concat]
  apply Iff.intro
  · intro hmirrors name hname severity
    obtain ⟨call, hcall, hboth⟩ := (h.mem_calls_reconnect name severity).mpr hname
    have hsupported := hmirrors.2 call hcall
    rwa [hboth.1, hboth.2] at hsupported
  · intro horder
    apply And.intro
    · intro name severity hlast mode
      exact (h.reconnect horder).mirrors (sendsHints_of_lastSent hsends hlast) hlast mode
    · intro call hcall
      exact horder call.type ((h.mem_calls_reconnect call.type call.severity).mp ⟨call, hcall, rfl, rfl⟩)
        call.severity

/-- Hints mirror the severities exactly in the runs whose events are in order. -/
theorem mirrorsSeverity_iff (isModeSupported : String → ThrottlingSeverity → Bool)
    (sensorInfoMap : UnorderedMap String SensorInfo) {events : List HintEvent}
    (hsends : ∀ event ∈ events, ForSendingSensor sensorInfoMap event) :
    EachAfter (MirrorsSeverity isModeSupported sensorInfoMap) events ↔
      EachAfter (HintInOrder isModeSupported sensorInfoMap) events := by
  apply eachAfter_congr
  intro before event after hevents _ horder
  have hupTo : ∀ other ∈ before ++ [event], ForSendingSensor sensorInfoMap other := by
    intro other hin
    apply hsends
    rw [hevents, ← List.singleton_append, ← List.append_assoc]
    exact List.mem_append_left _ hin
  have hbefore := tracksModes_run (fun other hin ↦ hupTo other (List.mem_append_left _ hin)) horder
  cases event with
  | send t => exact mirrorsSeverity_send_iff hupTo hbefore
  | reconnect => exact mirrorsSeverity_reconnect_iff hupTo hbefore

/-- A power HAL with one thermal mode, and a sensor that sends hints. -/
def severeOnly (name : String) (severity : ThrottlingSeverity) : Bool :=
  name = "VIRTUAL-SKIN" && severity = .severe

def skinSensor : UnorderedMap String SensorInfo :=
  (∅ : UnorderedMap String SensorInfo).insert "VIRTUAL-SKIN"
    { (default : SensorInfo) with sendPowerhint := true }

def skinAt (severity : ThrottlingSeverity) : Temperature where
  type := "SKIN"
  name := "VIRTUAL-SKIN"
  value := .fin 45
  throttlingStatus := severity

theorem sendsHints_skin : SendsHints skinSensor "VIRTUAL-SKIN" := ⟨_, rfl, rfl⟩

theorem mirrorsSeverity_iff_skin :
    EachAfter (MirrorsSeverity severeOnly skinSensor)
      [.send (skinAt .critical), .send (skinAt .light), .send (skinAt .severe)] := by
  apply (mirrorsSeverity_iff severeOnly skinSensor _).mpr
  · rw [eachAfter_cons, eachAfter_cons, eachAfter_singleton]
    exact ⟨Or.inl (by decide), Or.inr (by decide), Or.inl (by decide)⟩
  · intro event hin
    simp only [List.mem_cons, List.not_mem_nil, or_false] at hin
    rcases hin with rfl | rfl | rfl <;> exact sendsHints_skin

/-- A reconnection enables a mode that is not supported. -/
theorem reconnect_sets_unsupported :
    (⟨"VIRTUAL-SKIN", .light, true⟩ : SetMode) ∈ hintCalls
        (hintRun (hintStart severeOnly skinSensor) [.send (skinAt .severe)]).service .reconnect ∧
      ¬ Supported (severeOnly "VIRTUAL-SKIN") .light ∧
      ¬ EachAfter (MirrorsSeverity severeOnly skinSensor) [.send (skinAt .severe), .reconnect] := by
  have hcall : (⟨"VIRTUAL-SKIN", .light, true⟩ : SetMode) ∈ hintCalls
      (hintRun (hintStart severeOnly skinSensor) [.send (skinAt .severe)]).service .reconnect := by
    decide +kernel
  have hunsupported : ¬ Supported (severeOnly "VIRTUAL-SKIN") .light := by decide
  apply And.intro hcall
  apply And.intro hunsupported
  intro heach
  exact hunsupported ((heach [.send (skinAt .severe)] .reconnect [] rfl).2 _ hcall)

end Runs

end HardwareMediatek.Thermal
