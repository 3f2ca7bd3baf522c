import HardwareMediatek.Foundation.EffectRuns
import HardwareMediatek.Foundation.RingBuffer
import HardwareMediatek.Thermal.PowerRefresh

/-!
# The window of a power rail

The history of a rail is a window on the samples of its refreshes. It starts full of the sample of the
registration, and full of zeros after sampling was switched off, so that the average power is over as
many refreshes as the history has samples, and not over a time in which the rail was not sampled.
-/

namespace HardwareMediatek.Thermal

open Foundation UnorderedMap

section RailWindow

/-- What the events so far mean for a rail: its counters, the samples that were taken since it was
registered or last switched off, and when it was updated last. -/
structure RailWindow where
  counters : PowerSample
  enabled : Bool
  forgotten : Bool
  taken : List PowerSample
  updated : Option ℤ

/-- The counters of a rail after a reading. -/
def readCounters (powerRail : String) (reading : EnergyReading) (counters : PowerSample) : PowerSample :=
  (reading.getD []).foldl
    (fun counters sample ↦ if sample.1 = powerRail then sample.2 else counters) counters

/-- A refresh takes a sample of a rail that is enabled. -/
def RailWindow.step (powerRail : String) (window : RailWindow) : PowerEvent → RailWindow
  | .refresh env =>
    let counters := readCounters powerRail env.reading window.counters
    if window.enabled then
      { window with
        counters := counters
        taken := window.taken ++ [counters]
        updated := some (env.now powerRail) }
    else { window with counters := counters }
  | .switch other enabled =>
    if other = powerRail then
      { window with
        enabled := enabled
        forgotten := window.forgotten || !enabled
        taken := if enabled then window.taken else [] }
    else window

def windowAfter (powerRail : String) (registered : PowerSample) (events : List PowerEvent) :
    RailWindow :=
  events.foldl (RailWindow.step powerRail)
    { counters := registered
      enabled := true
      forgotten := false
      taken := []
      updated := none }

/-- Neither counter has gone back. -/
def PowerSample.NotAbove (sample later : PowerSample) : Prop :=
  sample.energyCounter ≤ later.energyCounter ∧ sample.duration ≤ later.duration

/-- The energy sources can be read, the rail is due, and its counters do not go back. -/
def RefreshInOrder (powerRail : String) (info : PowerRailInfo) (window : RailWindow) :
    PowerEvent → Prop
  | .refresh env => env.reading ≠ none ∧
    (window.enabled = true → ∀ time, window.updated = some time →
      info.powerSampleDelay ≤ elapsedMs (env.now powerRail) time) ∧
    window.counters.NotAbove (readCounters powerRail env.reading window.counters)
  | .switch _ _ => True

/-- The difference of the energy over that of the time, if some time has passed. -/
def averageBetween (earlier later : PowerSample) : ExactFloat :=
  if later.duration = earlier.duration then .nan
  else .ofInt (later.energyCounter - earlier.energyCounter) / .ofInt (later.duration - earlier.duration)

/-- The average power that a refresh has to publish, by the sample `count` refreshes earlier, or that of
the registration before there are as many. -/
def windowAverage (count : ℕ) (registered : PowerSample) (window : RailWindow)
    (currSample : PowerSample) : ExactFloat :=
  if window.forgotten = true ∧ window.taken.length < count then .nan
  else averageBetween ((stepsBack (registered :: (window.taken ++ [currSample])) count).getD registered)
    currSample

/-- The history that a window stands for. -/
def RailWindow.history (count : ℕ) (registered : PowerSample) (window : RailWindow) :
    List PowerSample :=
  (List.replicate count (if window.forgotten then ⟨0, 0⟩ else registered) ++ window.taken).drop
    window.taken.length

@[simp]
theorem RailWindow.length_history (count : ℕ) (registered : PowerSample) (window : RailWindow) :
    (window.history count registered).length = count := by
  unfold RailWindow.history
  rw [List.length_drop, List.length_append, List.length_replicate, Nat.add_sub_cancel]

theorem windowAfter_concat (powerRail : String) (registered : PowerSample) (events : List PowerEvent)
    (event : PowerEvent) : windowAfter powerRail registered (events ++ [event]) =
      (windowAfter powerRail registered events).step powerRail event := by
  unfold windowAfter
  rw [List.foldl_concat]

theorem PowerSample.NotAbove.trans {sample later last : PowerSample} (h : sample.NotAbove later)
    (h' : later.NotAbove last) : sample.NotAbove last := ⟨h.1.trans h'.1, h.2.trans h'.2⟩

/-- A sample is valid after one that is not above it, or that is no sample. -/
theorem validSamples_of_notAbove {sample later : PowerSample}
    (hsample : sample.duration = 0 ∨ sample.NotAbove later) : validSamples sample later = true := by
  unfold validSamples calculateAvgPower
  by_cases hcollecting : sample.duration = 0
  · rw [if_pos hcollecting]
  · have hle : sample.NotAbove later := hsample.resolve_left hcollecting
    rw [if_neg hcollecting]
    by_cases hsame : later.duration = sample.duration
    · rw [if_pos hsame]
    · have hvalid : ¬ (later.duration < sample.duration ∨ later.energyCounter < sample.energyCounter) := by
        rw [not_or, not_lt, not_lt]
        exact ⟨hle.2, hle.1⟩
      rw [if_neg hsame, if_neg hvalid]

/-- The samples of a window lie between the registration and the counters. -/
structure RailWindow.Bounded (registered : PowerSample) (window : RailWindow) : Prop where
  registration : registered.NotAbove window.counters
  samples : ∀ sample ∈ window.taken, registered.NotAbove sample ∧ sample.NotAbove window.counters

theorem RailWindow.Bounded.step {powerRail : String} {info : PowerRailInfo} {registered : PowerSample}
    {window : RailWindow} (h : window.Bounded registered) {event : PowerEvent}
    (horder : RefreshInOrder powerRail info window event) :
    (window.step powerRail event).Bounded registered := by
  cases event with
  | refresh env =>
    have hlater : window.counters.NotAbove (readCounters powerRail env.reading window.counters) :=
      horder.2.2
    have hregistration := h.registration.trans hlater
    have hsamples : ∀ sample ∈ window.taken, registered.NotAbove sample ∧
        sample.NotAbove (readCounters powerRail env.reading window.counters) :=
      fun sample hin ↦ ⟨(h.samples sample hin).1, (h.samples sample hin).2.trans hlater⟩
    unfold RailWindow.step
    cases henabled : window.enabled with
    | false => exact ⟨hregistration, hsamples⟩
    | true =>
      apply RailWindow.Bounded.mk hregistration
      intro sample hin
      apply Or.elim (List.mem_append.mp hin)
      · exact hsamples sample
      · intro hlast
        rw [List.mem_singleton.mp hlast]
        exact ⟨hregistration, le_rfl, le_rfl⟩
  | switch other enabled =>
    rw [RailWindow.step]
    by_cases hother : other = powerRail
    · rw [if_pos hother]
      refine ⟨h.registration, ?_⟩
      cases enabled with
      | false => exact fun sample hin ↦ absurd hin List.not_mem_nil
      | true => exact h.samples
    · rw [if_neg hother]
      exact h

/-- The oldest sample of the history is the one that so many refreshes earlier means, if any. -/
theorem RailWindow.head_history {count : ℕ} (hcount : 0 < count) (registered : PowerSample)
    (window : RailWindow) (currSample : PowerSample) :
    (window.history count registered).head? =
      some (if window.forgotten = true ∧ window.taken.length < count then ⟨0, 0⟩
        else (stepsBack (registered :: (window.taken ++ [currSample])) count).getD registered) := by
  unfold RailWindow.history stepsBack
  have hlast : (registered :: (window.taken ++ [currSample])).length - 1 - count =
      window.taken.length + 1 - count := by
    rw [List.length_cons, List.length_append, List.length_singleton]
    omega
  rw [List.head?_drop, hlast]
  by_cases hfew : window.taken.length < count
  · have hpad : window.taken.length + 1 - count = 0 := by omega
    rw [List.getElem?_append_left (by rw [List.length_replicate]; exact hfew),
      List.getElem?_replicate, if_pos hfew, hpad]
    cases window.forgotten with
    | false => rfl
    | true => rw [if_pos rfl, if_pos ⟨rfl, hfew⟩]
  · have hlater : window.taken.length + 1 - count = window.taken.length - count + 1 := by omega
    have hlt : window.taken.length - count < window.taken.length := by omega
    rw [List.getElem?_append_right (by rw [List.length_replicate]; omega), List.length_replicate,
      if_neg (fun hboth ↦ hfew hboth.2), hlater, List.getElem?_cons_succ,
      List.getElem?_append_left hlt, List.getElem?_eq_getElem hlt]
    rfl

/-- After sampling was switched off, only samples taken since then are compared. -/
theorem windowAverage_of_forgotten {count : ℕ} (hcount : 0 < count) (registered : PowerSample)
    {window : RailWindow} (hforgotten : window.forgotten = true) (currSample : PowerSample) :
    windowAverage count registered window currSample = .nan ∨
      ∃ earlier ∈ window.taken,
        windowAverage count registered window currSample = averageBetween earlier currSample := by
  unfold windowAverage
  by_cases hfew : window.taken.length < count
  · rw [if_pos ⟨hforgotten, hfew⟩]
    exact Or.inl rfl
  · have hback : stepsBack (registered :: (window.taken ++ [currSample])) count =
        window.taken[window.taken.length - count]? := by
      have hlater : (registered :: (window.taken ++ [currSample])).length - 1 - count =
          window.taken.length - count + 1 := by
        rw [List.length_cons, List.length_append, List.length_singleton]
        omega
      unfold stepsBack
      rw [hlater, List.getElem?_cons_succ, List.getElem?_append_left (by omega)]
    have hlt : window.taken.length - count < window.taken.length := by omega
    rw [if_neg (fun hboth ↦ hfew hboth.2), hback, List.getElem?_eq_getElem hlt]
    exact Or.inr ⟨_, List.getElem_mem hlt, rfl⟩

/-- The average power between counters that have not gone back. -/
theorem calculateAvgPower_of_notAbove {sample later : PowerSample} (hduration : sample.duration ≠ 0)
    (hle : sample.NotAbove later) : (calculateAvgPower sample later).1 = averageBetween sample later := by
  have hvalid : ¬ (later.duration < sample.duration ∨ later.energyCounter < sample.energyCounter) := by
    rw [not_or, not_lt, not_lt]
    exact ⟨hle.2, hle.1⟩
  unfold calculateAvgPower averageBetween
  rw [if_neg hduration]
  by_cases hsame : later.duration = sample.duration
  · rw [if_pos hsame, if_pos hsame]
  · rw [if_neg hsame, if_neg hvalid, if_neg hsame]
    dsimp only
    rw [Nat.cast_sub hle.1, Nat.cast_sub hle.2]

/-- The sample that a refresh compares with lies between the registration and the counters. -/
theorem RailWindow.Bounded.earlier {registered : PowerSample} {window : RailWindow}
    (h : window.Bounded registered) {currSample : PowerSample}
    (hlater : window.counters.NotAbove currSample) (count : ℕ) :
    registered.NotAbove
        ((stepsBack (registered :: (window.taken ++ [currSample])) count).getD registered) ∧
      ((stepsBack (registered :: (window.taken ++ [currSample])) count).getD registered).NotAbove
        currSample := by
  have hregistered : registered.NotAbove currSample := h.registration.trans hlater
  cases hback : stepsBack (registered :: (window.taken ++ [currSample])) count with
  | none => exact ⟨⟨le_rfl, le_rfl⟩, hregistered⟩
  | some sample =>
    rw [Option.getD_some]
    have hin := List.mem_of_getElem? hback
    rw [List.mem_cons, List.mem_append, List.mem_singleton] at hin
    rcases hin with rfl | hin | rfl
    · exact ⟨⟨le_rfl, le_rfl⟩, hregistered⟩
    · exact ⟨(h.samples sample hin).1, (h.samples sample hin).2.trans hlater⟩
    · exact ⟨hregistered, le_rfl, le_rfl⟩

/-- A refresh publishes the average power of the window. -/
theorem averagePower_history {energyInfoMap : UnorderedMap String PowerSample} {powerRail : String}
    {count : ℕ} (hcount : 0 < count) {registered : PowerSample} (hpositive : 0 < registered.duration)
    {window : RailWindow} (h : window.Bounded registered) {currSample : PowerSample}
    (hsample : energyInfoMap.lookup powerRail = some currSample)
    (hlater : window.counters.NotAbove currSample) :
    averagePower energyInfoMap powerRail (window.history count registered) =
      windowAverage count registered window currSample := by
  have hhead := window.head_history hcount registered currSample
  have hbetween := h.earlier hlater count
  cases hhistory : window.history count registered with
  | nil =>
    rw [hhistory] at hhead
    cases hhead
  | cons oldest rest =>
    rw [hhistory] at hhead
    unfold averagePower windowAverage
    rw [hsample, Option.some.inj hhead]
    by_cases hfew : window.forgotten = true ∧ window.taken.length < count
    · rw [if_pos hfew, if_pos hfew]
      rfl
    · rw [if_neg hfew, if_neg hfew]
      apply calculateAvgPower_of_notAbove _ hbetween.2
      have hle := hbetween.1.2
      omega

/-- All samples of the history are valid before the counters. -/
theorem slide_history {count : ℕ} {registered : PowerSample} {window : RailWindow}
    (h : window.Bounded registered) {currSample : PowerSample}
    (hlater : window.counters.NotAbove currSample) :
    slide validSamples (window.history count registered) currSample =
      (List.replicate count (if window.forgotten then ⟨0, 0⟩ else registered) ++
        (window.taken ++ [currSample])).drop (window.taken ++ [currSample]).length := by
  apply slide_drop
  intro oldest holdest
  apply validSamples_of_notAbove
  rcases List.mem_append.mp (List.mem_of_getElem? holdest) with hpad | hin
  · rw [(List.mem_replicate.mp hpad).2]
    cases window.forgotten with
    | false => exact Or.inr (h.registration.trans hlater)
    | true => exact Or.inl rfl
  · exact Or.inr ((h.samples oldest hin).2.trans hlater)

end RailWindow

section Runs

variable {powerRail : String} {info : PowerRailInfo} {count : ℕ} {registered : PowerSample}
  {window : RailWindow} {monitor monitor' : PowerMonitor}

/-- The monitor has for a rail what the window says. -/
structure TracksWindow (powerRail : String) (info : PowerRailInfo) (count : ℕ)
    (registered : PowerSample) (window : RailWindow) (monitor : PowerMonitor) : Prop where
  info : monitor.files.powerRailInfoMap.lookup powerRail = some info
  energy : monitor.energyInfoMap.lookup powerRail = some window.counters
  bounded : window.Bounded registered
  status : ∃ avgPower, monitor.files.powerStatusMap.lookup powerRail = some
    { lastUpdateTime := window.updated.getD minTimePoint
      powerHistory := [window.history count registered]
      lastUpdatedAvgPower := avgPower
      enabled := window.enabled }

theorem lookup_foldl_put (samples : List (String × PowerSample))
    {energyInfoMap : UnorderedMap String PowerSample} {counters : PowerSample}
    (henergy : energyInfoMap.lookup powerRail = some counters) :
    (samples.foldl (fun energyInfoMap sample ↦ energyInfoMap.put sample.1 sample.2)
      energyInfoMap).lookup powerRail =
      some (samples.foldl
        (fun counters sample ↦ if sample.1 = powerRail then sample.2 else counters) counters) := by
  induction samples generalizing energyInfoMap counters with
  | nil => exact henergy
  | cons sample samples ih =>
    rw [List.foldl_cons, List.foldl_cons]
    apply ih
    rw [lookup_put]
    by_cases hrail : powerRail = sample.1
    · rw [if_pos hrail, if_pos hrail.symm]
    · rw [if_neg hrail, if_neg (Ne.symm hrail)]
      exact henergy

/-- A reading gives the counters of the rail. -/
theorem lookup_updateEnergyValues {reading : EnergyReading} (hreading : reading ≠ none)
    {energyInfoMap : UnorderedMap String PowerSample} {counters : PowerSample}
    (henergy : energyInfoMap.lookup powerRail = some counters) :
    ∃ energyInfoMap', updateEnergyValues reading energyInfoMap = some energyInfoMap' ∧
      energyInfoMap'.lookup powerRail = some (readCounters powerRail reading counters) := by
  cases reading with
  | none => exact absurd rfl hreading
  | some samples => exact ⟨_, rfl, lookup_foldl_put samples henergy⟩

/-- A rail whose delay is over since its last refresh is due. -/
theorem isDue_of_updated {status : PowerStatus} {updated : Option ℤ} {now : ℤ}
    (hlast : status.lastUpdateTime = updated.getD minTimePoint)
    (hdelay : ∀ time, updated = some time → info.powerSampleDelay ≤ elapsedMs now time) :
    status.isDue info now = true := by
  unfold PowerStatus.isDue
  rw [hlast]
  cases updated with
  | none => simp
  | some time =>
    have hnot : ¬ elapsedMs now time < info.powerSampleDelay := not_lt.mpr (hdelay time rfl)
    simp [hnot]

/-- A refresh keeps the window, and publishes its average power if the rail is enabled. -/
theorem TracksWindow.refresh (h : TracksWindow powerRail info count registered window monitor)
    (hphysical : info.virtualPowerRailInfo = none) (hcount : 0 < count)
    (hpositive : 0 < registered.duration) {env : Refresh}
    (horder : RefreshInOrder powerRail info window (.refresh env)) {refreshed : Bool}
    (hrefresh : refreshPowerStatus env monitor = .ok (monitor', refreshed)) :
    TracksWindow powerRail info count registered (window.step powerRail (.refresh env)) monitor' ∧
      (window.enabled = true → publishedPower monitor' powerRail =
        some (windowAverage count registered window
          (readCounters powerRail env.reading window.counters))) := by
  obtain ⟨avgPower, hstatus⟩ := h.status
  obtain ⟨energyInfoMap, hreading, hsample⟩ := lookup_updateEnergyValues horder.1 h.energy
  have hbounded := h.bounded.step horder
  rw [RailWindow.step] at *
  cases henabled : window.enabled with
  | false =>
    have hsame := sameRail_refreshPowerStatus hreading hsample hstatus henabled hrefresh
    rw [henabled] at hbounded
    apply And.intro _ fun htrue ↦ nomatch htrue
    refine ⟨?_, ?_, hbounded, avgPower, ?_⟩
    · rw [hsame.info]
      exact h.info
    · rw [hsame.energy]
      exact hsample
    · rw [hsame.status]
      exact hstatus.trans (by rw [henabled]; rfl)
  | true =>
    have hqueue : window.history count registered ≠ [] := by
      apply List.ne_nil_of_length_pos
      rw [RailWindow.length_history]
      exact hcount
    have hrefreshed := lookup_refreshPowerStatus hreading hsample h.info hphysical hstatus henabled rfl
      hqueue (isDue_of_updated rfl (horder.2.1 henabled)) hrefresh
    have haverage := averagePower_history hcount hpositive h.bounded hsample horder.2.2
    unfold PowerStatus.refreshed at hrefreshed
    rw [slide_history h.bounded horder.2.2, haverage] at hrefreshed
    rw [henabled] at hbounded
    have hpublished : publishedPower monitor' powerRail = some (windowAverage count registered window
        (readCounters powerRail env.reading window.counters)) := by
      unfold publishedPower
      rw [hrefreshed.2.2]
      rfl
    apply And.intro _ fun _ ↦ hpublished
    refine ⟨?_, ?_, hbounded, _, hrefreshed.2.2.trans (by rw [henabled]; rfl)⟩
    · rw [hrefreshed.1]
      exact h.info
    · rw [hrefreshed.2.1]
      exact hsample

/-- A switch keeps the window. -/
theorem TracksWindow.switch (h : TracksWindow powerRail info count registered window monitor)
    {other : String} {enabled : Bool} {files : PowerFiles}
    (hswitch : powerSamplingSwitch other enabled monitor.files = .ok files) :
    TracksWindow powerRail info count registered (window.step powerRail (.switch other enabled))
      { monitor with files := files } := by
  obtain ⟨avgPower, hstatus⟩ := h.status
  have hswitched := lookup_powerSamplingSwitch h.info hstatus hswitch
  have hinfo : files.powerRailInfoMap.lookup powerRail = some info := by
    rw [hswitched.1]
    exact h.info
  have hbounded : (window.step powerRail (.switch other enabled)).Bounded registered :=
    @RailWindow.Bounded.step powerRail info _ _ h.bounded (.switch other enabled) trivial
  rw [RailWindow.step] at *
  by_cases hother : other = powerRail
  · rw [if_pos hother] at *
    cases enabled with
    | true =>
      have hsame : (window.forgotten || !true) = window.forgotten := Bool.or_false _
      rw [hsame]
      exact ⟨hinfo, h.energy, hsame ▸ hbounded, avgPower, hswitched.2⟩
    | false =>
      refine ⟨hinfo, h.energy, hbounded, .nan, hswitched.2.trans ?_⟩
      have hzeros : (window.history count registered).map (fun _ ↦ (⟨0, 0⟩ : PowerSample)) =
          List.replicate count ⟨0, 0⟩ := by
        rw [List.map_const', RailWindow.length_history]
      unfold forgetSamples
      rw [List.map_singleton, hzeros]
      unfold RailWindow.history
      simp
  · rw [if_neg hother] at *
    exact ⟨hinfo, h.energy, hbounded, avgPower, hswitched.2⟩

theorem runPower_concat {events : List PowerEvent} {event : PowerEvent}
    (hrun : runPower monitor (events ++ [event]) = .ok monitor') :
    ∃ middle, runPower monitor events = .ok middle ∧ stepPower middle event = .ok monitor' := by
  unfold runPower at hrun
  rw [List.foldlM_append] at hrun
  obtain ⟨middle, hmiddle, hlast⟩ := bind_eq_ok.mp hrun
  rw [List.foldlM_cons] at hlast
  obtain ⟨final, hstep, hfinal⟩ := bind_eq_ok.mp hlast
  rw [← Except.ok.inj hfinal]
  exact ⟨middle, hmiddle, hstep⟩

/-- Every step keeps the window. -/
theorem TracksWindow.step (h : TracksWindow powerRail info count registered window monitor)
    (hphysical : info.virtualPowerRailInfo = none) (hcount : 0 < count)
    (hpositive : 0 < registered.duration) {event : PowerEvent}
    (horder : RefreshInOrder powerRail info window event)
    (hstep : stepPower monitor event = .ok monitor') :
    TracksWindow powerRail info count registered (window.step powerRail event) monitor' := by
  cases event with
  | refresh env =>
    obtain ⟨result, hrefresh, hpair⟩ := bind_eq_ok.mp hstep
    rw [← Except.ok.inj hpair]
    exact (h.refresh hphysical hcount hpositive horder hrefresh).1
  | switch other enabled =>
    obtain ⟨files, hswitch, hpair⟩ := bind_eq_ok.mp hstep
    rw [← Except.ok.inj hpair]
    exact h.switch hswitch

/-- Every run keeps the window. -/
theorem TracksWindow.run
    (h : TracksWindow powerRail info count registered (windowAfter powerRail registered []) monitor)
    (hphysical : info.virtualPowerRailInfo = none) (hcount : 0 < count)
    (hpositive : 0 < registered.duration) {events : List PowerEvent}
    (horder : EachAfter (fun before event ↦
      RefreshInOrder powerRail info (windowAfter powerRail registered before) event) events)
    (hrun : runPower monitor events = .ok monitor') :
    TracksWindow powerRail info count registered (windowAfter powerRail registered events) monitor' := by
  induction events using List.reverseRecOn generalizing monitor' with
  | nil => exact Except.ok.inj hrun ▸ h
  | append_singleton events event ih =>
    obtain ⟨middle, hmiddle, hstep⟩ := runPower_concat hrun
    have hsplit := (eachAfter_concat _ events event).mp horder
    rw [windowAfter_concat]
    exact (ih hsplit.1 hmiddle).step hphysical hcount hpositive hsplit.2 hstep

section Registered

variable {infos : UnorderedMap String PowerRailInfo} {statuses : PowerStatusMap}
  {energyInfoMap : UnorderedMap String PowerSample}
  (hregister : registerPowerRails energyInfoMap infos.entries ∅ = some statuses)
  (hinfo : infos.lookup powerRail = some info) (hsampled : info.sampled = true)
  (hphysical : info.virtualPowerRailInfo = none)

include hregister hinfo hsampled hphysical

/-- A rail that is registered starts with a window full of its sample. -/
theorem tracksWindow_registered
    (hregistered : energyInfoMap.lookup powerRail = some registered) :
    TracksWindow powerRail info info.powerSampleCount.toNat registered
      (windowAfter powerRail registered []) ⟨⟨infos, statuses⟩, energyInfoMap⟩ where
  info := hinfo
  energy := hregistered
  bounded := ⟨⟨le_rfl, le_rfl⟩, fun _ hin ↦ absurd hin List.not_mem_nil⟩
  status := by
    obtain ⟨sample, hsample, hstatus⟩ := lookup_registerPowerRails hregister infos.nodupKeys
      (mem_entries_iff.mpr hinfo) hsampled hphysical
    rw [Option.some.inj (hregistered.symm.trans hsample)]
    apply Exists.intro ExactFloat.nan
    rw [hstatus]
    unfold RailWindow.history
    simp [windowAfter]

/-- The history of a rail always has as many samples as configured, a refresh publishes the average power
since the sample so many refreshes earlier, and no sample from before the rail was switched off takes
part in it. -/
theorem powerWindow_of_run (hcount : 0 < info.powerSampleCount)
    (hregistered : energyInfoMap.lookup powerRail = some registered)
    (hpositive : 0 < registered.duration) {events : List PowerEvent}
    (horder : EachAfter (fun before event ↦
      RefreshInOrder powerRail info (windowAfter powerRail registered before) event) events)
    (hrun : runPower ⟨⟨infos, statuses⟩, energyInfoMap⟩ events = .ok monitor) :
    (∃ history avgPower lastUpdateTime enabled, history.length = info.powerSampleCount ∧
      monitor.files.powerStatusMap.lookup powerRail =
        some ⟨lastUpdateTime, [history], avgPower, enabled⟩) ∧
    ∀ before env, events = before ++ [.refresh env] →
      (windowAfter powerRail registered before).enabled = true →
        publishedPower monitor powerRail = some (windowAverage info.powerSampleCount.toNat registered
          (windowAfter powerRail registered before)
          (windowAfter powerRail registered events).counters) ∧
        ((windowAfter powerRail registered before).forgotten = true →
          publishedPower monitor powerRail = some .nan ∨
            ∃ earlier ∈ (windowAfter powerRail registered before).taken,
              publishedPower monitor powerRail =
                some (averageBetween earlier (windowAfter powerRail registered events).counters)) := by
  have hstart := tracksWindow_registered hregister hinfo hsampled hphysical hregistered
  have hpos : 0 < info.powerSampleCount.toNat := by omega
  have htracks := hstart.run hphysical hpos hpositive horder hrun
  apply And.intro
  · obtain ⟨avgPower, hstatus⟩ := htracks.status
    refine ⟨_, avgPower, _, _, ?_, hstatus⟩
    rw [RailWindow.length_history]
    omega
  · intro before env hevents henabled
    rw [hevents] at horder hrun
    obtain ⟨middle, hmiddle, hstep⟩ := runPower_concat hrun
    have hsplit := (eachAfter_concat _ before _).mp horder
    have hbefore := hstart.run hphysical hpos hpositive hsplit.1 hmiddle
    obtain ⟨result, hrefresh, hpair⟩ := bind_eq_ok.mp hstep
    have hpublished : publishedPower monitor powerRail =
        some (windowAverage info.powerSampleCount.toNat registered (windowAfter powerRail registered before)
          (windowAfter powerRail registered events).counters) := by
      rw [← Except.ok.inj hpair, hevents, windowAfter_concat,
        (hbefore.refresh hphysical hpos hpositive hsplit.2 hrefresh).2 henabled, RailWindow.step,
        if_pos henabled]
    apply And.intro hpublished
    intro hforgotten
    rw [hpublished, Option.some_inj]
    have hsince := windowAverage_of_forgotten hpos registered hforgotten
      (windowAfter powerRail registered events).counters
    apply hsince.imp_right
    intro hearlier
    obtain ⟨earlier, hboth⟩ := hearlier
    exact ⟨earlier, hboth.1, congrArg some hboth.2⟩

end Registered

/-- A rail that is registered, refreshed, switched off and on, and refreshed twice. -/
def watchedRails : UnorderedMap String PowerRailInfo :=
  (∅ : UnorderedMap String PowerRailInfo).insert "S2M_VDD_CPUCL2"
    { powerSampleCount := 1
      powerSampleDelay := 1000
      virtualPowerRailInfo := none }

def registeredStatuses : PowerStatusMap :=
  (∅ : PowerStatusMap).insert "S2M_VDD_CPUCL2"
    { lastUpdateTime := minTimePoint
      powerHistory := [[⟨761330, 358356⟩]]
      lastUpdatedAvgPower := .nan
      enabled := true }

def registeredEnergy : UnorderedMap String PowerSample :=
  (∅ : UnorderedMap String PowerSample).insert "S2M_VDD_CPUCL2" ⟨761330, 358356⟩

def sampleAt (seconds : ℕ) : Refresh where
  reading := some [("S2M_VDD_CPUCL2", ⟨761330 + 3000 * seconds, 358356 + 1000 * seconds⟩)]
  rereading _ := none
  now _ := 1000000000 * seconds

def switchedEvents : List PowerEvent :=
  [.refresh (sampleAt 1), .switch "S2M_VDD_CPUCL2" false, .switch "S2M_VDD_CPUCL2" true,
    .refresh (sampleAt 2), .refresh (sampleAt 3)]

theorem powerWindow_of_run_switched :
    ∃ monitor, runPower ⟨⟨watchedRails, registeredStatuses⟩, registeredEnergy⟩ switchedEvents =
        .ok monitor ∧ publishedPower monitor "S2M_VDD_CPUCL2" = some (.fin 3) := by
  have hsome : (runPower ⟨⟨watchedRails, registeredStatuses⟩, registeredEnergy⟩
      switchedEvents).toOption.isSome = true := by
    decide +kernel
  obtain ⟨monitor, hmonitor⟩ := Option.isSome_iff_exists.mp hsome
  have hrun := toOption_eq_some hmonitor
  have horder : EachAfter (fun before event ↦ RefreshInOrder "S2M_VDD_CPUCL2"
      { powerSampleCount := 1, powerSampleDelay := 1000, virtualPowerRailInfo := none }
      (windowAfter "S2M_VDD_CPUCL2" ⟨761330, 358356⟩ before) event) switchedEvents := by
    unfold switchedEvents
    rw [eachAfter_cons, eachAfter_cons, eachAfter_cons, eachAfter_cons, eachAfter_singleton]
    refine ⟨⟨Option.some_ne_none _, fun _ time htime ↦ (nomatch htime), ?_⟩, trivial, trivial,
      ⟨Option.some_ne_none _, ?_, ?_⟩, ⟨Option.some_ne_none _, ?_, ?_⟩⟩
    · exact ⟨by decide +kernel, by decide +kernel⟩
    · intro _ time htime
      rw [← Option.some.inj htime]
      decide +kernel
    · exact ⟨by decide +kernel, by decide +kernel⟩
    · intro _ time htime
      rw [← Option.some.inj htime]
      decide +kernel
    · exact ⟨by decide +kernel, by decide +kernel⟩
  have hpublished := (@powerWindow_of_run "S2M_VDD_CPUCL2" _ ⟨761330, 358356⟩ monitor watchedRails
    registeredStatuses registeredEnergy rfl rfl rfl rfl (by decide) rfl (by decide) switchedEvents horder
    hrun).2 (switchedEvents.take 4) (sampleAt 3) rfl (by decide +kernel)
  exact ⟨monitor, hrun, hpublished.1.trans (by decide +kernel)⟩

end Runs

end HardwareMediatek.Thermal
