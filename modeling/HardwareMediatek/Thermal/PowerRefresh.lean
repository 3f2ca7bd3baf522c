import HardwareMediatek.Foundation.Loops
import HardwareMediatek.Thermal.AveragePower

/-!
# Refreshes of one rail

A refresh goes through all rails, but what it does to one of them depends on that rail alone: its
samples, and whether it is enabled and due. The same holds of switching a rail.
-/

namespace HardwareMediatek.Thermal

open Foundation UnorderedMap

section OtherRails

/-- The monitor knows the same about a rail. -/
structure SameRail (powerRail : String) (monitor monitor' : PowerMonitor) : Prop where
  info : monitor'.files.powerRailInfoMap = monitor.files.powerRailInfoMap
  status : monitor'.files.powerStatusMap.lookup powerRail =
    monitor.files.powerStatusMap.lookup powerRail
  energy : monitor'.energyInfoMap = monitor.energyInfoMap

theorem SameRail.refl (powerRail : String) (monitor : PowerMonitor) :
    SameRail powerRail monitor monitor := ⟨rfl, rfl, rfl⟩

theorem SameRail.trans {powerRail : String} {monitor monitor' monitor'' : PowerMonitor}
    (h : SameRail powerRail monitor monitor') (h' : SameRail powerRail monitor' monitor'') :
    SameRail powerRail monitor monitor'' :=
  ⟨h'.info.trans h.info, h'.status.trans h.status, h'.energy.trans h.energy⟩

variable {env : Refresh} {powerRail other : String} {monitor monitor' : PowerMonitor}
  {energyInfoMap : UnorderedMap String PowerSample}

/-- Samples that are there are not read again. -/
theorem energyFor_of_sample {source : String} {sample : PowerSample}
    (hsample : energyInfoMap.lookup source = some sample) :
    energyFor env powerRail energyInfoMap = some energyInfoMap := by
  unfold energyFor
  apply if_neg
  intro hempty
  have hentry := mem_entries_iff.mpr hsample
  rw [List.isEmpty_iff.mp hempty] at hentry
  cases hentry

theorem sameRail_updatePowerRail {source : String} {sample : PowerSample} {avgPower : ExactFloat}
    (hsample : monitor.energyInfoMap.lookup source = some sample) (hne : other ≠ powerRail)
    (hupdate : updatePowerRail env other monitor = .ok (monitor', avgPower)) :
    SameRail powerRail monitor monitor' := by
  have hsame : ∀ {r : PowerMonitor × ExactFloat}, (.ok r : Checked _) = .ok (monitor', avgPower) →
      r.1 = monitor → SameRail powerRail monitor monitor' := by
    intro r hr hmonitor
    rw [← (ok_pair hr).1, hmonitor]
    exact SameRail.refl powerRail monitor
  cases hinfo : monitor.files.powerRailInfoMap.lookup other with
  | none =>
    unfold updatePowerRail at hupdate
    rw [hinfo] at hupdate
    exact hsame hupdate rfl
  | some info =>
    cases hstatus : monitor.files.powerStatusMap.lookup other with
    | none =>
      unfold updatePowerRail at hupdate
      rw [hinfo, hstatus] at hupdate
      exact hsame hupdate rfl
    | some status =>
      cases hdue : status.isDue info (env.now other) with
      | false =>
        unfold updatePowerRail at hupdate
        rw [hinfo, hstatus] at hupdate
        simp only [hdue, Bool.false_eq_true, if_false] at hupdate
        exact hsame hupdate rfl
      | true =>
        rw [updatePowerRail_of_due hinfo hstatus hdue (energyFor_of_sample hsample)] at hupdate
        cases hcomputed : computeRailPower monitor.energyInfoMap other info status.powerHistory with
        | error fault =>
          rw [hcomputed] at hupdate
          cases hupdate
        | ok computed =>
          rw [hcomputed] at hupdate
          rw [← (ok_pair hupdate).1]
          exact ⟨rfl, (lookup_put _ _ _ _).trans (if_neg hne.symm), rfl⟩

theorem sameRail_refreshRail {source : String} {sample : PowerSample}
    (hsample : monitor.energyInfoMap.lookup source = some sample) (hne : other ≠ powerRail)
    (hrefresh : refreshRail env monitor other = .ok monitor') :
    SameRail powerRail monitor monitor' := by
  unfold refreshRail at hrefresh
  obtain ⟨status, -, hrest⟩ := bind_eq_ok.mp hrefresh
  cases henabled : status.enabled with
  | false =>
    rw [henabled] at hrest
    rw [← Except.ok.inj hrest]
    exact SameRail.refl powerRail monitor
  | true =>
    rw [henabled, if_pos rfl] at hrest
    obtain ⟨updated, hupdate, hpair⟩ := bind_eq_ok.mp hrest
    rw [← Except.ok.inj hpair]
    exact sameRail_updatePowerRail hsample hne hupdate

end OtherRails

section OneRail

variable {env : Refresh} {powerRail : String} {monitor monitor' : PowerMonitor} {info : PowerRailInfo}
  {status : PowerStatus} {energyInfoMap : UnorderedMap String PowerSample} {currSample : PowerSample}
  {powerHistory : List PowerSample}

/-- The samples are valid, and the older one need not stay. -/
def validSamples (lastSample currSample : PowerSample) : Bool :=
  (calculateAvgPower lastSample currSample).2

/-- Differences of counters are not negative. -/
theorem nonnegativePower_calculate (lastSample currSample : PowerSample) :
    nonnegativePower (calculateAvgPower lastSample currSample).1 =
      (calculateAvgPower lastSample currSample).1 := by
  unfold calculateAvgPower
  by_cases hcollecting : lastSample.duration = 0
  · rw [if_pos hcollecting]
    rfl
  · rw [if_neg hcollecting]
    by_cases hsame : currSample.duration = lastSample.duration
    · rw [if_pos hsame]
      rfl
    · rw [if_neg hsame]
      by_cases hinvalid : currSample.duration < lastSample.duration ∨
          currSample.energyCounter < lastSample.energyCounter
      · rw [if_pos hinvalid]
        rfl
      · rw [if_neg hinvalid]
        apply if_neg
        dsimp only
        generalize currSample.energyCounter - lastSample.energyCounter = deltaEnergy
        have hduration : (((currSample.duration - lastSample.duration : ℕ) : ℤ) : ℚ) ≠ 0 := by
          push Not at hinvalid
          have hle := hinvalid.1
          norm_cast
          omega
        unfold ExactFloat.ofInt
        rw [ExactFloat.div_def, ExactFloat.div, if_neg hduration, ExactFloat.zero_def,
          ExactFloat.fin_lt_fin, not_lt]
        positivity

theorem nonnegativePower_averagePower :
    nonnegativePower (averagePower energyInfoMap powerRail powerHistory) =
      averagePower energyInfoMap powerRail powerHistory := by
  unfold averagePower
  split
  · exact nonnegativePower_calculate _ _
  · rfl

/-- What a refresh leaves for a rail of its own that is due. -/
def PowerStatus.refreshed (status : PowerStatus) (energyInfoMap : UnorderedMap String PowerSample)
    (powerRail : String) (powerHistory : List PowerSample) (currSample : PowerSample) (now : ℤ) :
    PowerStatus :=
  { status with
    powerHistory := [slide validSamples powerHistory currSample]
    lastUpdatedAvgPower := averagePower energyInfoMap powerRail powerHistory
    lastUpdateTime := now }

theorem lookup_refreshRail (hinfo : monitor.files.powerRailInfoMap.lookup powerRail = some info)
    (hphysical : info.virtualPowerRailInfo = none)
    (hstatus : monitor.files.powerStatusMap.lookup powerRail = some status)
    (henabled : status.enabled = true) (hhistory : status.powerHistory = [powerHistory])
    (hqueue : powerHistory ≠ []) (hdue : status.isDue info (env.now powerRail) = true)
    (hsample : monitor.energyInfoMap.lookup powerRail = some currSample)
    (hrefresh : refreshRail env monitor powerRail = .ok monitor') :
    monitor'.files.powerRailInfoMap = monitor.files.powerRailInfoMap ∧
      monitor'.energyInfoMap = monitor.energyInfoMap ∧
      monitor'.files.powerStatusMap.lookup powerRail = some (status.refreshed monitor.energyInfoMap
        powerRail powerHistory currSample (env.now powerRail)) := by
  have hcompute : computeRailPower monitor.energyInfoMap powerRail info status.powerHistory =
      .ok (averagePower monitor.energyInfoMap powerRail powerHistory,
        [slide validSamples powerHistory currSample]) := by
    unfold computeRailPower
    rw [hphysical, hhistory]
    simp only [updateAveragePower_of_sample hsample hqueue]
    rfl
  unfold refreshRail at hrefresh
  rw [atKey_of_lookup hstatus] at hrefresh
  have hupdated : (updatePowerRail env powerRail monitor).map Prod.fst = .ok monitor' := by
    rw [← hrefresh]
    change _ = if status.enabled then _ else _
    rw [henabled, if_pos rfl]
    cases updatePowerRail env powerRail monitor <;> rfl
  rw [updatePowerRail_of_due hinfo hstatus hdue (energyFor_of_sample hsample), hcompute] at hupdated
  rw [← Except.ok.inj hupdated]
  refine ⟨rfl, rfl, (lookup_put _ _ _ _).trans ?_⟩
  rw [if_pos rfl, nonnegativePower_averagePower]
  rfl

/-- A rail whose sampling is switched off is passed over. -/
theorem refreshRail_disabled (hstatus : monitor.files.powerStatusMap.lookup powerRail = some status)
    (hdisabled : status.enabled = false) : refreshRail env monitor powerRail = .ok monitor := by
  unfold refreshRail
  rw [atKey_of_lookup hstatus]
  change (if status.enabled then _ else _) = _
  rw [hdisabled]
  rfl

/-- What a refresh does to the energy, whatever the rails are. -/
theorem refreshPowerStatus_eq_ok
    (hreading : updateEnergyValues env.reading monitor.energyInfoMap = some energyInfoMap)
    {result : PowerMonitor × Bool} (hrefresh : refreshPowerStatus env monitor = .ok result) :
    monitor.files.powerStatusMap.keys.foldlM (refreshRail env)
      { monitor with energyInfoMap := energyInfoMap } = .ok result.1 := by
  unfold refreshPowerStatus at hrefresh
  rw [hreading] at hrefresh
  obtain ⟨final, hloop, hpair⟩ := bind_eq_ok.mp hrefresh
  rw [← Except.ok.inj hpair]
  exact hloop

/-- A rail that is enabled and due is refreshed. -/
theorem lookup_refreshPowerStatus
    (hreading : updateEnergyValues env.reading monitor.energyInfoMap = some energyInfoMap)
    (hsample : energyInfoMap.lookup powerRail = some currSample)
    (hinfo : monitor.files.powerRailInfoMap.lookup powerRail = some info)
    (hphysical : info.virtualPowerRailInfo = none)
    (hstatus : monitor.files.powerStatusMap.lookup powerRail = some status)
    (henabled : status.enabled = true) (hhistory : status.powerHistory = [powerHistory])
    (hqueue : powerHistory ≠ []) (hdue : status.isDue info (env.now powerRail) = true)
    {result : PowerMonitor × Bool} (hrefresh : refreshPowerStatus env monitor = .ok result) :
    result.1.files.powerRailInfoMap = monitor.files.powerRailInfoMap ∧
      result.1.energyInfoMap = energyInfoMap ∧
      result.1.files.powerStatusMap.lookup powerRail = some (status.refreshed energyInfoMap
        powerRail powerHistory currSample (env.now powerRail)) := by
  have hkey : powerRail ∈ monitor.files.powerStatusMap.keys :=
    AList.mem_keys.mp (mem_of_lookup hstatus)
  apply @foldlM_once _ _ _ (SameRail powerRail { monitor with energyInfoMap := energyInfoMap })
    (fun final ↦ final.files.powerRailInfoMap = monitor.files.powerRailInfoMap ∧
      final.energyInfoMap = energyInfoMap ∧
      final.files.powerStatusMap.lookup powerRail = some (status.refreshed energyInfoMap
        powerRail powerHistory currSample (env.now powerRail))) (refreshRail env) _ powerRail hkey
    monitor.files.powerStatusMap.keys_nodup _ _ _ _ _ (SameRail.refl _ _)
    (refreshPowerStatus_eq_ok hreading hrefresh)
  · intro other hne before after hsame hround
    apply hsame.trans
    apply sameRail_refreshRail _ hne hround
    · exact powerRail
    · exact currSample
    · rw [hsame.energy]
      exact hsample
  · intro before after hsame hround
    have hrefreshed := lookup_refreshRail (by rw [hsame.info]; exact hinfo) hphysical
      (hsame.status.trans hstatus) henabled hhistory hqueue hdue
      (by rw [hsame.energy]; exact hsample) hround
    rw [hsame.info, hsame.energy] at hrefreshed
    exact hrefreshed
  · intro other hne before after hdone hround
    have hsame := sameRail_refreshRail (by rw [hdone.2.1]; exact hsample) hne hround
    rw [hsame.info, hsame.energy, hsame.status]
    exact hdone

/-- A rail whose sampling is switched off is left as it is. -/
theorem sameRail_refreshPowerStatus
    (hreading : updateEnergyValues env.reading monitor.energyInfoMap = some energyInfoMap)
    (hsample : energyInfoMap.lookup powerRail = some currSample)
    (hstatus : monitor.files.powerStatusMap.lookup powerRail = some status)
    (hdisabled : status.enabled = false)
    {result : PowerMonitor × Bool} (hrefresh : refreshPowerStatus env monitor = .ok result) :
    SameRail powerRail { monitor with energyInfoMap := energyInfoMap } result.1 := by
  apply foldlM_keeps _ (SameRail.refl _ _) (refreshPowerStatus_eq_ok hreading hrefresh)
  intro other _ before after hsame hround
  by_cases hother : other = powerRail
  · rw [hother, refreshRail_disabled (hsame.status.trans hstatus) hdisabled] at hround
    rw [← Except.ok.inj hround]
    exact hsame
  · apply hsame.trans
    apply sameRail_refreshRail _ hother hround
    · exact powerRail
    · exact currSample
    · rw [hsame.energy]
      exact hsample

/-- A switch acts on its own rail. -/
theorem lookup_powerSamplingSwitch {files files' : PowerFiles} {other : String} {enabled : Bool}
    (hinfo : files.powerRailInfoMap.lookup powerRail = some info)
    (hstatus : files.powerStatusMap.lookup powerRail = some status)
    (hswitch : powerSamplingSwitch other enabled files = .ok files') :
    files'.powerRailInfoMap = files.powerRailInfoMap ∧
      files'.powerStatusMap.lookup powerRail = some (if other = powerRail then
        if enabled then { status with enabled := true } else forgetSamples { status with enabled := false }
        else status) := by
  unfold powerSamplingSwitch at hswitch
  by_cases hknown : other ∈ files.powerRailInfoMap
  · rw [if_pos hknown] at hswitch
    obtain ⟨found, hfound, hrest⟩ := bind_eq_ok.mp hswitch
    rw [← Except.ok.inj hrest]
    apply And.intro rfl
    rw [lookup_put]
    by_cases hother : other = powerRail
    · rw [hother] at hfound
      have hsame : found = status := Option.some.inj ((atKey_eq_ok.mp hfound).symm.trans hstatus)
      rw [if_pos hother.symm, if_pos hother, hsame]
      cases enabled <;> rfl
    · rw [if_neg (Ne.symm hother), if_neg hother]
      exact hstatus
  · rw [if_neg hknown] at hswitch
    rw [← Except.ok.inj hswitch]
    apply And.intro rfl
    have hother : other ≠ powerRail := fun hsame ↦ hknown (hsame ▸ mem_of_lookup hinfo)
    rw [if_neg hother]
    exact hstatus

end OneRail

section Registration

variable {energyInfoMap : UnorderedMap String PowerSample}
  {entries : List (Sigma fun _ : String ↦ PowerRailInfo)} {m m' : PowerStatusMap} {powerRail : String}

theorem lookup_registerPowerRails_of_not_mem (hregister : registerPowerRails energyInfoMap entries m = some m')
    (hnot : powerRail ∉ entries.map Sigma.fst) : m'.lookup powerRail = m.lookup powerRail := by
  induction entries generalizing m with
  | nil => rw [← Option.some.inj hregister]
  | cons entry rest ih =>
    rw [List.map_cons, List.mem_cons, not_or] at hnot
    rw [registerPowerRails] at hregister
    cases hsampled : entry.2.sampled with
    | false =>
      rw [hsampled] at hregister
      exact ih hregister hnot.2
    | true =>
      rw [hsampled, if_pos rfl] at hregister
      obtain ⟨history, -, hrest⟩ := Option.bind_eq_some_iff.mp hregister
      rw [ih hrest hnot.2, lookup_put, if_neg hnot.1]

/-- A physical rail is registered with a history full of its current sample. -/
theorem lookup_registerPowerRails {info : PowerRailInfo}
    (hregister : registerPowerRails energyInfoMap entries m = some m')
    (hnodup : (entries.map Sigma.fst).Nodup) (hentry : ⟨powerRail, info⟩ ∈ entries)
    (hsampled : info.sampled = true) (hphysical : info.virtualPowerRailInfo = none) :
    ∃ registered, energyInfoMap.lookup powerRail = some registered ∧
      m'.lookup powerRail = some
        { lastUpdateTime := minTimePoint
          powerHistory := [List.replicate info.powerSampleCount.toNat registered]
          lastUpdatedAvgPower := .nan
          enabled := true } := by
  induction entries generalizing m with
  | nil => cases hentry
  | cons entry rest ih =>
    have hsplit := List.nodup_cons.mp hnodup
    rw [registerPowerRails] at hregister
    rcases List.mem_cons.mp hentry with rfl | hlater
    · rw [hsampled, if_pos rfl] at hregister
      obtain ⟨history, hhistory, hrest⟩ := Option.bind_eq_some_iff.mp hregister
      unfold PowerRailInfo.sources at hhistory
      rw [hphysical] at hhistory
      obtain ⟨registered, hregistered, htail⟩ := Option.bind_eq_some_iff.mp hhistory
      apply Exists.intro registered
      apply And.intro hregistered
      rw [lookup_registerPowerRails_of_not_mem hrest hsplit.1, lookup_put, if_pos rfl,
        ← Option.some.inj htail]
    · cases hother : entry.2.sampled with
      | false =>
        rw [hother] at hregister
        exact ih hregister hsplit.2 hlater
      | true =>
        rw [hother, if_pos rfl] at hregister
        obtain ⟨history, -, hrest⟩ := Option.bind_eq_some_iff.mp hregister
        exact ih hrest hsplit.2 hlater

end Registration

end HardwareMediatek.Thermal
