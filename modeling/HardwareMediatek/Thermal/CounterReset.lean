import HardwareMediatek.Thermal.PowerWindow

/-!
# Counters that restart

When the counters of a rail restart, the samples of its history are above the new ones, and the history
does not move on until the counters have passed its oldest sample. The rail has an average power of the
new counters after as many refreshes as the history has samples, and one more, only if no sample of the
history is ever in the way.
-/

namespace HardwareMediatek.Thermal

open Foundation UnorderedMap

section Refreshes

variable {powerRail : String} {info : PowerRailInfo} {monitor monitor' : PowerMonitor}
  {counters : PowerSample} {updated : Option ℤ} {history : List PowerSample} {envs : List Refresh}

/-- The samples that some refreshes find for a rail. -/
def samplesOf (powerRail : String) : PowerSample → List Refresh → List PowerSample
  | _, [] => []
  | counters, env :: envs =>
    let currSample := readCounters powerRail env.reading counters
    currSample :: samplesOf powerRail currSample envs

/-- Refreshes that can read the energy sources and for which the rail is due. -/
def DueRefreshes (powerRail : String) (info : PowerRailInfo) : Option ℤ → List Refresh → Prop
  | _, [] => True
  | updated, env :: envs => env.reading ≠ none ∧
    (∀ time, updated = some time → info.powerSampleDelay ≤ elapsedMs (env.now powerRail) time) ∧
    DueRefreshes powerRail info (some (env.now powerRail)) envs

def refreshAll (envs : List Refresh) (monitor : PowerMonitor) : Checked PowerMonitor :=
  runPower monitor (envs.map .refresh)

/-- What the monitor has for a physical rail that is sampled. -/
structure Samples (powerRail : String) (info : PowerRailInfo) (counters : PowerSample)
    (updated : Option ℤ) (history : List PowerSample) (monitor : PowerMonitor) : Prop where
  physical : info.virtualPowerRailInfo = none
  info : monitor.files.powerRailInfoMap.lookup powerRail = some info
  energy : monitor.energyInfoMap.lookup powerRail = some counters
  status : ∃ avgPower, monitor.files.powerStatusMap.lookup powerRail = some
    { lastUpdateTime := updated.getD minTimePoint
      powerHistory := [history]
      lastUpdatedAvgPower := avgPower
      enabled := true }

@[simp]
theorem length_samplesOf (powerRail : String) (counters : PowerSample) (envs : List Refresh) :
    (samplesOf powerRail counters envs).length = envs.length := by
  induction envs generalizing counters with
  | nil => rfl
  | cons env envs ih => rw [samplesOf, List.length_cons, List.length_cons, ih]

theorem samplesOf_take (powerRail : String) (counters : PowerSample) (envs : List Refresh) (k : ℕ) :
    samplesOf powerRail counters (envs.take k) = (samplesOf powerRail counters envs).take k := by
  induction envs generalizing counters k with
  | nil => simp [samplesOf]
  | cons env envs ih =>
    cases k with
    | zero => rfl
    | succ k => rw [List.take_succ_cons, samplesOf, samplesOf, List.take_succ_cons, ih]

theorem DueRefreshes.take (h : DueRefreshes powerRail info updated envs) (k : ℕ) :
    DueRefreshes powerRail info updated (envs.take k) := by
  induction envs generalizing updated k with
  | nil => simpa using h
  | cons env envs ih =>
    cases k with
    | zero => trivial
    | succ k => exact ⟨h.1, h.2.1, ih h.2.2 k⟩

/-- One refresh, by its sample. -/
theorem Samples.refresh (h : Samples powerRail info counters updated history monitor)
    (hhistory : history ≠ []) {env : Refresh} {envs : List Refresh}
    (hdue : DueRefreshes powerRail info updated (env :: envs))
    (hstep : stepPower monitor (.refresh env) = .ok monitor') :
    let currSample := readCounters powerRail env.reading counters
    Samples powerRail info currSample (some (env.now powerRail)) (slide validSamples history currSample)
        monitor' ∧
      publishedPower monitor' powerRail =
        history.head?.map fun lastSample ↦ (calculateAvgPower lastSample currSample).1 := by
  intro currSample
  obtain ⟨avgPower, hstatus⟩ := h.status
  obtain ⟨energyInfoMap, hreading, hsample⟩ := lookup_updateEnergyValues hdue.1 h.energy
  obtain ⟨result, hrefresh, hpair⟩ := bind_eq_ok.mp hstep
  have hrefreshed := lookup_refreshPowerStatus hreading hsample h.info h.physical hstatus rfl rfl
    hhistory (isDue_of_updated rfl hdue.2.1) hrefresh
  rw [← Except.ok.inj hpair]
  apply And.intro
  · refine ⟨h.physical, ?_, ?_, _, hrefreshed.2.2⟩
    · rw [hrefreshed.1]
      exact h.info
    · rw [hrefreshed.2.1]
      exact hsample
  · unfold publishedPower
    rw [hrefreshed.2.2]
    cases history with
    | nil => exact absurd rfl hhistory
    | cons lastSample rest =>
      unfold PowerStatus.refreshed averagePower
      rw [hsample]
      rfl

/-- Some refreshes, by their samples. -/
theorem Samples.refreshAll (h : Samples powerRail info counters updated history monitor)
    (hhistory : history ≠ []) (hdue : DueRefreshes powerRail info updated envs)
    (hrun : refreshAll envs monitor = .ok monitor') :
    ∃ counters' updated', Samples powerRail info counters' updated'
      (slides validSamples history (samplesOf powerRail counters envs)) monitor' := by
  induction envs generalizing counters updated history monitor with
  | nil => exact ⟨counters, updated, Except.ok.inj hrun ▸ h⟩
  | cons env envs ih =>
    have hsteps : (stepPower monitor (.refresh env) >>= refreshAll envs) = .ok monitor' := hrun
    obtain ⟨middle, hstep, hrest⟩ := bind_eq_ok.mp hsteps
    have hmiddle := (h.refresh hhistory hdue hstep).1
    apply ih hmiddle _ hdue.2.2 hrest
    rw [← List.length_pos_iff, length_slide]
    exact List.length_pos_iff.mpr hhistory

/-- A refresh among others publishes the average power since the oldest sample. -/
theorem Samples.published (h : Samples powerRail info counters updated history monitor)
    (hhistory : history ≠ []) (hdue : DueRefreshes powerRail info updated envs)
    (hrun : Thermal.refreshAll envs monitor = .ok monitor') {k : ℕ} {currSample : PowerSample}
    (hcurr : (samplesOf powerRail counters envs)[k]? = some currSample) :
    ∃ middle, Thermal.refreshAll (envs.take (k + 1)) monitor = .ok middle ∧
      publishedPower middle powerRail =
        (slides validSamples history ((samplesOf powerRail counters envs).take k)).head?.map
          fun lastSample ↦ (calculateAvgPower lastSample currSample).1 := by
  induction envs generalizing counters updated history monitor k with
  | nil => cases hcurr
  | cons env envs ih =>
    have hsteps : (stepPower monitor (.refresh env) >>= Thermal.refreshAll envs) = .ok monitor' := hrun
    obtain ⟨next, hstep, hrest⟩ := bind_eq_ok.mp hsteps
    have hnext := h.refresh hhistory hdue hstep
    have hfirst : ∀ k, Thermal.refreshAll ((env :: envs).take (k + 1)) monitor =
        Thermal.refreshAll (envs.take k) next := by
      intro k
      unfold Thermal.refreshAll runPower
      rw [List.take_succ_cons, List.map_cons, List.foldlM_cons, hstep]
      rfl
    rw [hfirst]
    cases k with
    | zero =>
      rw [← Option.some.inj hcurr]
      exact ⟨next, rfl, hnext.2⟩
    | succ k =>
      have hqueue : slide validSamples history (readCounters powerRail env.reading counters) ≠ [] := by
        rw [← List.length_pos_iff, length_slide]
        exact List.length_pos_iff.mpr hhistory
      exact ih hnext.1 hqueue hdue.2.2 hrest hcurr

end Refreshes

section Reset

variable {powerRail : String} {info : PowerRailInfo} {monitor monitor' : PowerMonitor}
  {counters : PowerSample} {updated : Option ℤ} {history : List PowerSample} {envs : List Refresh}

/-- A sample of the history that lets a new one in: no sample at all, one of the same time, or one that is
not above it. -/
def PowerSample.LetsIn (sample later : PowerSample) : Prop :=
  sample.duration = 0 ∨ later.duration = sample.duration ∨ sample.NotAbove later

theorem validSamples_iff {sample later : PowerSample} :
    validSamples sample later = true ↔ sample.LetsIn later := by
  unfold validSamples calculateAvgPower PowerSample.LetsIn PowerSample.NotAbove
  by_cases hcollecting : sample.duration = 0
  · simp [hcollecting]
  · by_cases hsame : later.duration = sample.duration
    · simp [hcollecting, hsame]
    · rw [if_neg hcollecting, if_neg hsame]
      simp only [hcollecting, hsame, false_or]
      by_cases hvalid : later.duration < sample.duration ∨ later.energyCounter < sample.energyCounter
      · rw [if_pos hvalid]
        simp only [Bool.false_eq_true, false_iff]
        omega
      · rw [if_neg hvalid]
        simp only [true_iff]
        omega

/-- Both counters have grown. -/
def PowerSample.Below (sample later : PowerSample) : Prop :=
  sample.energyCounter < later.energyCounter ∧ sample.duration < later.duration

theorem isNaN_averageBetween {sample later : PowerSample} (hbelow : sample.Below later) :
    (averageBetween sample later).isNaN = false := by
  have hduration : (((later.duration : ℤ) - (sample.duration : ℤ) : ℤ) : ℚ) ≠ 0 := by
    have hlt : (sample.duration : ℤ) < later.duration := by exact_mod_cast hbelow.2
    rw [Int.cast_ne_zero]
    omega
  unfold averageBetween ExactFloat.ofInt
  rw [if_neg hbelow.2.ne', ExactFloat.div_def, ExactFloat.div, if_neg hduration]
  rfl

/-- The refresh after `k` others publishes an average power between two of the new samples. -/
def AveragesNewSamples (powerRail : String) (monitor : PowerMonitor) (history : List PowerSample)
    (samples : List PowerSample) (envs : List Refresh) (k : ℕ) : Prop :=
  ∃ monitor' oldest currSample, refreshAll (envs.take (k + 1)) monitor = .ok monitor' ∧
    (markedSlides validSamples history (samples.take k)).head? = some (oldest, true) ∧
    samples[k]? = some currSample ∧
    publishedPower monitor' powerRail = some (calculateAvgPower oldest currSample).1 ∧
    (calculateAvgPower oldest currSample).1.isNaN = false

/-- With counters that only grow from some sample on, the average power is again one of these samples, at
the latest at the refresh that is one more than the history is long, exactly when each sample of the
history lets in the one that is taken when it is the oldest. -/
theorem recovers_iff (h : Samples powerRail info counters updated history monitor)
    (hcount : history.length = info.powerSampleCount) (hhistory : history ≠ [])
    (hdue : DueRefreshes powerRail info updated envs) (hlength : envs.length = history.length + 1)
    (hpositive : ∀ sample ∈ samplesOf powerRail counters envs,
      0 < sample.energyCounter ∧ 0 < sample.duration)
    (hgrow : (samplesOf powerRail counters envs).Pairwise PowerSample.Below)
    (hrun : refreshAll envs monitor = .ok monitor') :
    (∀ k middle, refreshAll (envs.take k) monitor = .ok middle → ∃ avgPower lastUpdateTime,
      middle.files.powerStatusMap.lookup powerRail = some ⟨lastUpdateTime,
        [(markedSlides validSamples history ((samplesOf powerRail counters envs).take k)).map Prod.fst],
        avgPower, true⟩) ∧
    ((∃ k : ℕ, (k : ℤ) + 1 ≤ info.powerSampleCount + 1 ∧
        AveragesNewSamples powerRail monitor history (samplesOf powerRail counters envs) envs k) ↔
      ∀ (k : ℕ) (oldest currSample : PowerSample), history[k]? = some oldest →
        (samplesOf powerRail counters envs)[k]? = some currSample → oldest.LetsIn currSample) := by
  generalize hsamples : samplesOf powerRail counters envs = samples at *
  have hcounted : samples.length = history.length + 1 := by rw [← hsamples, length_samplesOf, hlength]
  apply And.intro
  · intro k middle hmiddle
    have hlater := h.refreshAll hhistory (hdue.take k) hmiddle
    rw [samplesOf_take, hsamples] at hlater
    obtain ⟨counters', updated', htracked⟩ := hlater
    obtain ⟨avgPower, hstatus⟩ := htracked.status
    rw [markedSlides_fst]
    exact ⟨avgPower, _, hstatus⟩
  · have htake : ∀ k, k ≤ history.length → (samples.take k).length = k := by
      intro k hk
      rw [List.length_take]
      omega
    apply Iff.intro
    · rintro ⟨k, hk, -, oldest, -, -, hmarked, -⟩ j old currSample hold hcurr
      have hle : (samples.take k).length ≤ history.length := by rw [htake k (by omega)]; omega
      have hall := (head_markedSlides_iff validSamples hle hhistory).mp ⟨oldest, hmarked⟩
      have hsame : k = history.length := (htake k (by omega)).symm.trans hall.1
      have hj : j < history.length := (List.getElem?_eq_some_iff.mp hold).1
      apply validSamples_iff.mp
      apply hall.2 j old currSample
      · rw [List.getElem?_append_left hj, hold]
      · rw [List.getElem?_take_of_lt (by omega), hcurr]
    · intro hlets
      have heach : AcceptsEach validSamples history (samples.take history.length) := by
        intro k oldest currSample hold hcurr
        have hk : k < history.length := by
          have hlt := (List.getElem?_eq_some_iff.mp hcurr).1
          rwa [htake _ le_rfl] at hlt
        rw [List.getElem?_append_left hk] at hold
        rw [List.getElem?_take_of_lt hk] at hcurr
        exact validSamples_iff.mpr (hlets k oldest currSample hold hcurr)
      have hfirst : 0 < samples.length := by omega
      have hlast : history.length < samples.length := by omega
      have hnonempty : 0 < history.length := List.length_pos_iff.mpr hhistory
      have hqueue : (slides validSamples history (samples.take history.length)).head? =
          some samples[0] := by
        rw [slides_eq_drop validSamples heach, htake _ le_rfl, List.head?_drop,
          List.getElem?_append_right le_rfl, Nat.sub_self, List.getElem?_take_of_lt hnonempty,
          List.getElem?_eq_getElem hfirst]
      have hle : (samples.take history.length).length ≤ history.length := (htake _ le_rfl).le
      obtain ⟨oldest, hmarked⟩ :=
        (head_markedSlides_iff validSamples hle hhistory).mpr ⟨htake _ le_rfl, heach⟩
      have holdest : oldest = samples[0] := by
        have hfst := congrArg (Option.map Prod.fst) hmarked
        rw [← List.head?_map, markedSlides_fst, hqueue] at hfst
        exact (Option.some.inj hfst).symm
      have hbelow : samples[0].Below samples[history.length] :=
        List.pairwise_iff_getElem.mp hgrow 0 history.length hfirst hlast hnonempty
      have haverage : (calculateAvgPower samples[0] samples[history.length]).1 =
          averageBetween samples[0] samples[history.length] :=
        calculateAvgPower_of_notAbove (hpositive _ (List.getElem_mem hfirst)).2.ne'
          ⟨hbelow.1.le, hbelow.2.le⟩
      have hcurr : (samplesOf powerRail counters envs)[history.length]? =
          some samples[history.length] := by
        rw [hsamples]
        exact List.getElem?_eq_getElem hlast
      obtain ⟨middle, hmiddle, hpublished⟩ := h.published hhistory hdue hrun hcurr
      rw [hsamples, hqueue] at hpublished
      refine ⟨history.length, by omega, middle, oldest, _, hmiddle, hmarked, List.getElem?_eq_getElem hlast,
        ?_, ?_⟩
      · rw [hpublished, holdest]
        rfl
      · rw [holdest, haverage]
        exact isNaN_averageBetween hbelow

/-- The counters of a rail restart right after it was registered. -/
def restartedAt (seconds : ℕ) : Refresh where
  reading := some [("S2M_VDD_CPUCL2", ⟨3000 * seconds, 1000 * seconds⟩)]
  rereading _ := none
  now _ := 1000000000 * seconds

/-- With a history of one sample, two refreshes after the restart publish nothing. -/
theorem restarted_publishes_nothing :
    ((refreshAll [restartedAt 1] ⟨⟨watchedRails, registeredStatuses⟩, registeredEnergy⟩).toOption.bind
        fun monitor ↦ publishedPower monitor "S2M_VDD_CPUCL2") = some .nan ∧
      ((refreshAll [restartedAt 1, restartedAt 2]
        ⟨⟨watchedRails, registeredStatuses⟩, registeredEnergy⟩).toOption.bind
        fun monitor ↦ publishedPower monitor "S2M_VDD_CPUCL2") = some .nan := by
  decide +kernel

theorem recovers_iff_restarted :
    ¬ ∃ k : ℕ, (k : ℤ) + 1 ≤ 1 + 1 ∧ AveragesNewSamples "S2M_VDD_CPUCL2"
      ⟨⟨watchedRails, registeredStatuses⟩, registeredEnergy⟩ [⟨761330, 358356⟩]
      [⟨3000, 1000⟩, ⟨6000, 2000⟩] [restartedAt 1, restartedAt 2] k := by
  have hstart : Samples "S2M_VDD_CPUCL2"
      { powerSampleCount := 1, powerSampleDelay := 1000, virtualPowerRailInfo := none } ⟨761330, 358356⟩
      none [⟨761330, 358356⟩] ⟨⟨watchedRails, registeredStatuses⟩, registeredEnergy⟩ :=
    ⟨rfl, rfl, rfl, .nan, rfl⟩
  have hdue : DueRefreshes "S2M_VDD_CPUCL2"
      { powerSampleCount := 1, powerSampleDelay := 1000, virtualPowerRailInfo := none } none
      [restartedAt 1, restartedAt 2] := by
    refine ⟨Option.some_ne_none _, fun _ htime ↦ (nomatch htime), Option.some_ne_none _, ?_, trivial⟩
    intro time htime
    rw [← Option.some.inj htime]
    decide +kernel
  have hsome : (refreshAll [restartedAt 1, restartedAt 2]
      ⟨⟨watchedRails, registeredStatuses⟩, registeredEnergy⟩).toOption.isSome = true := by
    decide +kernel
  obtain ⟨monitor, hmonitor⟩ := Option.isSome_iff_exists.mp hsome
  have hiff := (recovers_iff hstart rfl (List.cons_ne_nil _ _) hdue rfl
    (by simp [samplesOf, readCounters, restartedAt])
    (by simp [samplesOf, readCounters, restartedAt, PowerSample.Below]) (toOption_eq_some hmonitor)).2
  intro hrecovers
  have hlets := hiff.mp hrecovers 0 ⟨761330, 358356⟩ ⟨3000, 1000⟩ rfl rfl
  simp [PowerSample.LetsIn, PowerSample.NotAbove] at hlets

end Reset

end HardwareMediatek.Thermal
